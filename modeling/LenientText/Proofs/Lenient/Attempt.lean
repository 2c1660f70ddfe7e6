import LenientText.Lenient.Format
import LenientText.Proofs.Object.Answer
import LenientText.Proofs.Object.Naming

/-!
# One conversion and what follows it

An attempt records one conversion before any tolerance: the value, the session in
which its text was asked for, what came of it, and the session left. An ordinary
exception makes it a failure, which is recovered from, and anything else that was
raised makes it an interruption. A failure issues a warning as soon as the object is
named, unless the exception attached to it raises something when it is looked at. The same
is recorded of the listing of arguments, whose failures are recovered from silently.
-/

namespace LenientText

namespace Lenient

/-- A caller gives a logger, or nothing. -/
def IsLoggerOrNull (logger : Obj) : Prop := logger = .null ∨ ∃ name, logger = .logger name

/-- The name of the logger in use. -/
def loggerName : Obj → Text
  | .logger name => name
  | _ => defaultLogger

end Lenient

/-- What a record has of what was raised, by what that holds. -/
def Store.attachment (s : Store) : Raised → Attachment
  | .fault _ => .complete
  | .thrown e => if s.isTrue e then .complete else .untrue

namespace Session

/-- A session in which the logger in use is there. -/
def readied (s : Session) : Obj → Session
  | .null => { s with registry := s.registry.ensure Lenient.defaultLogger }
  | _ => s

/-- A session after questions about what is attached to a warning have been put. -/
def answered (s : Session) (cause : Raised) (questions : List Question) : Session :=
  ((questions.forM (Run.put cause)).run s).2

/-- A session after a warning has been issued, and has been shown. -/
def notified (s : Session) (name message : Text) (cause : Raised) (attached : Attachment) :
    Session :=
  (s.warned name message cause).answered cause
    (s.registry.questions name Logger.warningLevel attached)

/-- The objects stay the same when a logger is made ready. -/
@[simp] theorem store_readied (s : Session) (logger : Obj) :
    (s.readied logger).store = s.store := by
  cases logger <;> rfl

/-- So do the warnings. -/
@[simp] theorem warnings_readied (s : Session) (logger : Obj) :
    (s.readied logger).warnings = s.warnings := by
  cases logger <;> rfl

/-- Putting questions only calls hooks. -/
theorem onlyCalls_answered (s : Session) (cause : Raised) (questions : List Question) :
    s.OnlyCalls (s.answered cause questions) :=
  (Run.IsInspection.forM fun q => Run.isInspection_put cause q).within s

/-- The objects stay the same when a warning is issued. -/
@[simp] theorem store_notified (s : Session) (name message : Text) (cause : Raised)
    (attached : Attachment) : (s.notified name message cause attached).store = s.store :=
  (onlyCalls_answered _ cause _).store_eq

/-- A warning is one more. -/
@[simp] theorem warnings_notified (s : Session) (name message : Text) (cause : Raised)
    (attached : Attachment) : (s.notified name message cause attached).warnings =
      s.warnings ++ [s.warning name message cause] :=
  (onlyCalls_answered _ cause _).onlyLooks.sameLogging.warnings_eq

/-- What a computation raised, if that is no ordinary exception. -/
def interruption? {α : Type} (after : Session) : Except Raised α → Option Raised
  | .ok _ => none
  | .error cause => if cause.isOrdinary after.store then none else some cause

/-- An interruption is what was raised, if that is no ordinary exception. -/
theorem interruption?_eq_some_iff {α : Type} {after : Session} {outcome : Except Raised α}
    {e : Raised} : after.interruption? outcome = some e ↔
      outcome = .error e ∧ e.isOrdinary after.store = false := by
  cases outcome with
  | ok a => simp only [interruption?, reduceCtorEq, false_and]
  | error cause =>
    rw [interruption?, Except.error.injEq]
    split
    · next hc =>
      constructor
      · intro h
        cases h
      · rintro ⟨rfl, hfalse⟩
        rw [hc] at hfalse
        cases hfalse
    · next hc =>
      rw [Option.some.injEq]
      constructor
      · rintro rfl
        exact ⟨rfl, eq_false_of_ne_true hc⟩
      · rintro ⟨rfl, -⟩
        rfl

end Session

namespace Run

/-- The text of a value as it was given, without any tolerance. -/
def asked : TextOrObj → Run TextOrObj
  | .text t => return .text t
  | .object .null => return .text Lenient.nullText
  | .object o => written .text o

/-- The text that names the class of what was raised. -/
def causeText (cause : Raised) : Run Text := do
  qualifiedName (cause.type (← store)) >>= inserted

end Run

/-- One conversion before any tolerance. -/
structure Attempt where
  /-- What is converted. -/
  value : TextOrObj
  /-- The session in which the text is asked for. -/
  before : Session
  /-- The text as it was given, or what was raised. -/
  outcome : Except Raised TextOrObj
  /-- The session when the text was given or something was raised. -/
  after : Session

/-- The object that could not be converted, and why. -/
structure Failure where
  /-- The object. -/
  object : Obj
  /-- The ordinary exception that was raised. -/
  cause : Raised

namespace Attempt

/-- The attempt to convert a value in a session. -/
def start (value : TextOrObj) (s : Session) : Attempt :=
  ⟨value, s, ((Run.asked value).run s).1, ((Run.asked value).run s).2⟩

/-- The failure, if an ordinary exception was raised. -/
def failure? (a : Attempt) : Option Failure :=
  match a.value, a.outcome with
  | .object o, .error cause => if cause.isOrdinary a.after.store then some ⟨o, cause⟩ else none
  | _, _ => none

/-- What was raised, if that is no ordinary exception. -/
def interruption? (a : Attempt) : Option Raised := a.after.interruption? a.outcome

/-- What the conversion comes to after recovery, and the session then. -/
def settled (logger : Obj) (a : Attempt) : Except Raised TextOrObj × Session :=
  match a.failure? with
  | some f => (TextOrObj.text <$> Run.recover logger f.object f.cause).run a.after
  | none => (a.outcome, a.after)

/-- The warning that a failure issues, once the object is named and the exception has been
looked at. -/
def warning? (logger : Obj) (a : Attempt) : Option Warning :=
  match a.failure? with
  | some f =>
    match (Run.identityText f.object).run a.after with
    | (.ok identity, t) =>
      match (Run.weighFor (Lenient.loggerName logger) f.cause).run (t.readied logger) with
      | (.ok _, u) =>
        some (u.warning (Lenient.loggerName logger) (Lenient.warningIntro ++ identity) f.cause)
      | (.error _, _) => none
    | (.error _, _) => none
  | none => none

/-- If the attempt failed and its object is named, looking at the exception goes through where
the warning is handled. -/
def IsLogged (logger : Obj) (a : Attempt) : Prop :=
  ∀ f, a.failure? = some f → ∀ identity t,
    (Run.identityText f.object).run a.after = (.ok identity, t) →
      ∃ attached u, (Run.weighFor (Lenient.loggerName logger) f.cause).run (t.readied logger) =
        (.ok attached, u)

end Attempt

/-- The listing of arguments before any tolerance. -/
structure Listing where
  /-- What is listed. -/
  arguments : Obj
  /-- The session in which the items are asked for. -/
  before : Session
  /-- The items, or what was raised. -/
  outcome : Except Raised (List Obj)
  /-- The session when the items were given or something was raised. -/
  after : Session

namespace Listing

/-- The listing of arguments in a session. -/
def start (arguments : Obj) (s : Session) : Listing :=
  ⟨arguments, s, ((Run.itemsOf arguments).run s).1, ((Run.itemsOf arguments).run s).2⟩

/-- What was raised, if that is no ordinary exception. -/
def interruption? (l : Listing) : Option Raised := l.after.interruption? l.outcome

/-- What there is to convert. Arguments that cannot be listed are the only one. -/
def settled (l : Listing) : Except Raised (List Obj) :=
  match l.outcome with
  | .ok items => .ok items
  | .error cause =>
    if cause.isOrdinary l.after.store then .ok [l.arguments] else .error cause

end Listing

namespace Run

variable {logger o : Obj} {s : Session}

/-- Asking a value for its text is an inspection. -/
theorem isInspection_asked (value : TextOrObj) : IsInspection (asked value) := by
  unfold asked
  split
  · exact .pure _
  · exact .pure _
  · exact isInspection_written _ _

/-- Putting questions raises nothing. -/
theorem run_forM_put (cause : Raised) (questions : List Question) (s : Session) :
    (questions.forM (put cause)).run s = (.ok (), s.answered cause questions) := by
  have hput : ∀ q s, ∃ t, (put cause q).run s = (.ok (), t) := by
    intro q s
    cases cause with
    | fault f => exact ⟨s, rfl⟩
    | thrown e => cases q <;> exact ⟨_, run_attempt _ s⟩
  rw [Session.answered]
  induction questions generalizing s with
  | nil => rfl
  | cons q questions ih =>
    obtain ⟨t, ht⟩ := hput q s
    change (put cause q >>= fun _ => questions.forM (put cause)).run s =
      (.ok (), ((put cause q >>= fun _ => questions.forM (put cause)).run s).2)
    rw [run_bind_of_ok ht]
    exact ih t

/-- What is attached to a warning is only looked at where the warning is handled. -/
theorem run_weighFor (name : Text) (cause : Raised) (s : Session) :
    (weighFor name cause).run s =
      if s.registry.isEnabledFor name Logger.warningLevel then (weigh cause).run s
      else (.ok .complete, s) := by
  have hget : (get : Run Session).run s = (.ok s, s) := rfl
  rw [weighFor, run_bind_of_ok hget]
  split <;> rfl

/-- Looking at what is attached to a warning, if it is handled, is an inspection. -/
theorem isInspection_weighFor (name : Text) (cause : Raised) :
    IsInspection (weighFor name cause) := by
  refine IsInspection.get.bind fun s => ?_
  split
  · exact isInspection_weigh cause
  · exact .pure _

/-- What is weighed quietly has no effect on a warning either. -/
theorem run_weighFor_of_weigh {name : Text} {cause : Raised} {s : Session} {attached : Attachment}
    (h : (weigh cause).run s = (.ok attached, s)) :
    (weighFor name cause).run s =
      (.ok (if s.registry.isEnabledFor name Logger.warningLevel = true then attached
        else .complete), s) := by
  rw [run_weighFor]
  split
  · exact h
  · rfl

/-- An exception that no class answers for is weighed quietly. -/
theorem run_weigh_of_isTakenPlainly {e : Obj} {s : Session} (h : s.store.IsTakenPlainly e) :
    (weigh (.thrown e)).run s = (.ok (s.store.attachment (.thrown e)), s) := by
  rw [weigh, run_bind_of_ok (run_truthOf_of_isTakenPlainly h), Store.attachment]
  cases s.store.isTrue e with
  | false => rfl
  | true => exact run_bind_of_ok (run_ask_of_isTakenPlainly h .trail)

/-- So it has no effect on a warning. -/
theorem run_weighFor_of_isTakenPlainly {name : Text} {cause : Raised} {s : Session}
    (h : ∀ e, cause = .thrown e → s.store.IsTakenPlainly e) :
    (weighFor name cause).run s =
      (.ok (if s.registry.isEnabledFor name Logger.warningLevel = true then
        s.store.attachment cause else .complete), s) := by
  refine run_weighFor_of_weigh ?_
  cases cause with
  | fault f => rfl
  | thrown e => exact run_weigh_of_isTakenPlainly (h e rfl)

/-- Questions that are answered quietly have no effect. -/
theorem answered_of_put {cause : Raised} {s : Session}
    (h : ∀ q, (put cause q).run s = (.ok (), s)) (questions : List Question) :
    s.answered cause questions = s := by
  have hall : (questions.forM (put cause)).run s = (.ok (), s) := by
    induction questions with
    | nil => rfl
    | cons q questions ih => exact (run_bind_of_ok (h q)).trans ih
  rw [Session.answered, hall]

/-- A caller's logger is there before it is looked at what is attached to the warning, and what
that raises is all that a warning raises. -/
theorem run_warn (h : Lenient.IsLoggerOrNull logger) (message : Text) (cause : Raised)
    (s : Session) : (warn logger message cause).run s =
      match (weighFor (Lenient.loggerName logger) cause).run (s.readied logger) with
      | (.ok attached, t) => (.ok (), t.notified (Lenient.loggerName logger) message cause attached)
      | (.error e, t) => (.error e, t) := by
  have hwarn : (warn logger message cause).run s =
      (warnOn (Lenient.loggerName logger) message cause).run (s.readied logger) := by
    rcases h with rfl | ⟨name, rfl⟩ <;> rfl
  rw [hwarn, warnOn]
  rcases hweigh : (weighFor (Lenient.loggerName logger) cause).run (s.readied logger) with
    ⟨e | attached, t⟩
  · exact run_bind_of_error hweigh
  · rw [run_bind_of_ok hweigh]
    exact run_forM_put cause _ _

/-- A warning that goes through is one more, and besides hooks have been called. -/
theorem exists_of_run_warn (h : Lenient.IsLoggerOrNull logger) {message : Text} {cause : Raised}
    {s t : Session} (hrun : (warn logger message cause).run s = (.ok (), t)) :
    ∃ made, t = { s.readied logger with
      calls := s.calls ++ made
      warnings := s.warnings ++
        [(s.readied logger).warning (Lenient.loggerName logger) message cause] } := by
  rw [run_warn h] at hrun
  rcases hw : (weighFor (Lenient.loggerName logger) cause).run (s.readied logger) with
    ⟨e | attached, u⟩
  · rw [hw] at hrun
    cases hrun
  · rw [hw] at hrun
    obtain ⟨made, rfl⟩ := (isInspection_weighFor _ _).within.of_run hw
    obtain ⟨more, hmore⟩ := Session.onlyCalls_answered
      (Session.warned { s.readied logger with calls := (s.readied logger).calls ++ made }
        (Lenient.loggerName logger) message cause) cause
      ((s.readied logger).registry.questions (Lenient.loggerName logger) Logger.warningLevel
        attached)
    refine ⟨made ++ more, ?_⟩
    have ht := (Prod.mk.inj hrun).2.symm.trans hmore
    rcases h with rfl | ⟨name, rfl⟩
    · rw [ht, ← List.append_assoc]
      rfl
    · rw [ht, ← List.append_assoc]
      rfl

/-- A warning goes through and calls no hooks if no class answers for what is attached to it
and no handler asks. -/
theorem run_warn_of_isTakenPlainly (h : Lenient.IsLoggerOrNull logger) {message : Text}
    {cause : Raised} {s : Session} (hcause : ∀ e, cause = .thrown e → s.store.IsTakenPlainly e)
    (hquestions : ∀ attached, (s.readied logger).registry.questions (Lenient.loggerName logger)
      Logger.warningLevel attached = []) :
    (warn logger message cause).run s =
      (.ok (), (s.readied logger).warned (Lenient.loggerName logger) message cause) := by
  have hplain : ∀ e, cause = .thrown e → (s.readied logger).store.IsTakenPlainly e :=
    fun e he => (Session.store_readied s logger).symm ▸ hcause e he
  rw [run_warn h, run_weighFor_of_isTakenPlainly hplain]
  dsimp only
  rw [Session.notified, hquestions]
  rfl

/-- Converting an object that is there is asking it for its text and recovering. -/
theorem conversion_of_ne_null (logger : Obj) (h : o ≠ .null) : conversion logger o =
    rescue (asked (.object o)) .exception fun cause => .text <$> recover logger o cause := by
  cases o with
  | null => exact absurd rfl h
  | _ => rfl

/-- A conversion comes to what the attempt settles on. -/
theorem run_conversionEither (logger : Obj) (value : TextOrObj) (s : Session) :
    (conversionEither logger value).run s = (Attempt.start value s).settled logger := by
  cases value with
  | text t => rfl
  | object o =>
    by_cases hnull : o = .null
    · subst hnull
      rfl
    · rw [conversionEither, conversion_of_ne_null logger hnull]
      rcases hx : (asked (.object o)).run s with ⟨cause | x, t⟩
      · have hstart : Attempt.start (.object o) s = ⟨.object o, s, .error cause, t⟩ := by
          rw [Attempt.start, hx]
        rw [hstart]
        by_cases hc : cause.isOrdinary t.store = true
        · have hfailure : Attempt.failure? ⟨.object o, s, .error cause, t⟩ = some ⟨o, cause⟩ :=
            if_pos hc
          rw [run_rescue_of_isA hx hc, Attempt.settled, hfailure]
        · have hfailure : Attempt.failure? ⟨.object o, s, .error cause, t⟩ = none := if_neg hc
          rw [run_rescue_of_not_isA hx (eq_false_of_ne_true hc), Attempt.settled, hfailure]
      · have hstart : Attempt.start (.object o) s = ⟨.object o, s, .ok x, t⟩ := by
          rw [Attempt.start, hx]
        rw [run_rescue_of_ok hx, hstart]
        rfl

/-- The arguments are what their listing settles on. -/
theorem run_argumentsOf (o : Obj) (s : Session) :
    (argumentsOf o).run s = ((Listing.start o s).settled, (Listing.start o s).after) := by
  rcases hx : (itemsOf o).run s with ⟨cause | items, t⟩
  · have hstart : Listing.start o s = ⟨o, s, .error cause, t⟩ := by rw [Listing.start, hx]
    rw [hstart]
    by_cases hc : cause.isOrdinary t.store = true
    · have hsettled : Listing.settled ⟨o, s, .error cause, t⟩ = .ok [o] := if_pos hc
      rw [argumentsOf, run_rescue_of_isA hx hc, hsettled]
      rfl
    · have hsettled : Listing.settled ⟨o, s, .error cause, t⟩ = .error cause := if_neg hc
      rw [argumentsOf, run_rescue_of_not_isA hx (eq_false_of_ne_true hc), hsettled]
  · have hstart : Listing.start o s = ⟨o, s, .ok items, t⟩ := by rw [Listing.start, hx]
    rw [argumentsOf, run_rescue_of_ok hx, hstart]
    rfl

/-- A call with arguments converts the template, lists the arguments, converts the items
and fills the template. -/
theorem formatArguments_of_ne_null (logger : Obj) (template : TextOrObj) {arguments : Obj}
    (h : arguments ≠ .null) : formatArguments logger template arguments =
      conversionEither logger template >>= fun t => argumentsOf arguments >>= fun items =>
        items.mapM (convert logger) >>= filled t := by
  cases arguments with
  | null => exact absurd rfl h
  | _ => rfl

/-- Recovery names the object, issues the warning and names the exception. -/
theorem recover_eq (logger o : Obj) (cause : Raised) : recover logger o cause =
    identityText o >>= fun identity => warn logger (Lenient.warningIntro ++ identity) cause >>=
      fun _ => Lenient.apology identity <$> causeText cause := by
  simp only [recover, causeText, map_eq_pure_bind, bind_assoc]

/-- Naming the class of what was raised is an inspection. -/
theorem isInspection_causeText (cause : Raised) : IsInspection (causeText cause) :=
  IsInspection.store.bind fun _ =>
    (isInspection_qualifiedName _).bind fun _ => isInspection_inserted _

/-- Recovery fails exactly if naming the object does, or looking whether the exception counts
as true does where the warning is handled, or naming the exception after the warning. -/
theorem run_recover_eq_error (h : Lenient.IsLoggerOrNull logger) (cause : Raised) {e : Raised}
    {t : Session} : (recover logger o cause).run s = (.error e, t) ↔
      (identityText o).run s = (.error e, t) ∨
      ∃ identity u, (identityText o).run s = (.ok identity, u) ∧
        ((weighFor (Lenient.loggerName logger) cause).run (u.readied logger) = (.error e, t) ∨
          ∃ attached v, (weighFor (Lenient.loggerName logger) cause).run (u.readied logger) =
              (.ok attached, v) ∧
            (causeText cause).run (v.notified (Lenient.loggerName logger)
              (Lenient.warningIntro ++ identity) cause attached) = (.error e, t)) := by
  rw [recover_eq, run_bind_eq_error]
  refine or_congr Iff.rfl (exists_congr fun identity => exists_congr fun u => ?_)
  refine and_congr Iff.rfl ?_
  have hwarn := run_warn h (Lenient.warningIntro ++ identity) cause u
  rcases hweigh : (weighFor (Lenient.loggerName logger) cause).run (u.readied logger) with
    ⟨q | attached, v⟩
  · rw [hweigh] at hwarn
    rw [run_bind_of_error hwarn]
    constructor
    · intro hx
      cases hx
      exact .inl rfl
    · rintro (hx | ⟨_, _, hx, -⟩)
      · cases hx
        rfl
      · cases hx
  · rw [hweigh] at hwarn
    rw [run_bind_of_ok hwarn, run_map]
    constructor
    · intro hx
      refine .inr ⟨attached, v, rfl, ?_⟩
      rcases hcause : (causeText cause).run _ with ⟨q | x, w⟩
      · rw [hcause] at hx
        cases hx
        rfl
      · rw [hcause] at hx
        cases hx
    · rintro (hx | ⟨_, _, hx, hcause⟩)
      · cases hx
      · cases hx
        rw [hcause]
        rfl

/-- What a warning raises comes of looking at what is attached to it, or of what was given for
a logger and is none. -/
theorem raisesOnly_warn (logger : Obj) (message : Text) (cause : Raised) :
    RaisesOnly (fun e => e.isOfInspection = true) (warn logger message cause) := by
  have hput : ∀ questions : List Question,
      RaisesOnly (fun e => e.isOfInspection = true) (questions.forM (put cause)) :=
    fun questions => raisesOnly_of_ok fun s => ⟨(), _, run_forM_put cause questions s⟩
  have hon : ∀ name, RaisesOnly (fun e => e.isOfInspection = true) (warnOn name message cause) :=
    fun name => (isInspection_weighFor name cause).raisesOnly.bind fun attached =>
      (raisesOnly_of_ok fun s => ⟨_, _, rfl⟩).bind hput
  unfold warn
  split
  · exact (raisesOnly_of_ok fun s => ⟨_, _, rfl⟩).bind fun _ => hon _
  · exact hon _
  · exact IsInspection.store.raisesOnly.bind fun s =>
      raisesOnly_throw (isOfInspection_noAttribute s _ _)

/-- What leaves a conversion was thrown by a hook or is a fault of looking. -/
theorem raisesOnly_convert (logger o : Obj) :
    RaisesOnly (fun e => e.isOfInspection = true) (convert logger o) := by
  have hrecover : ∀ cause,
      RaisesOnly (fun e => e.isOfInspection = true) (recover logger o cause) := by
    intro cause
    simp only [recover_eq, map_eq_pure_bind]
    exact (raisesOnly_identityText o).bind fun identity => (raisesOnly_warn _ _ _).bind fun _ =>
      (isInspection_causeText cause).raisesOnly.bind fun _ => raisesOnly_pure _
  have hconversion :
      RaisesOnly (fun e => e.isOfInspection = true) (conversion logger o) := by
    by_cases hnull : o = .null
    · subst hnull
      exact raisesOnly_pure _
    · rw [conversion_of_ne_null logger hnull]
      refine (isInspection_asked (.object o)).raisesOnly.rescue fun cause => ?_
      rw [map_eq_pure_bind]
      exact (hrecover cause).bind fun _ => raisesOnly_pure _
  exact hconversion.bind fun r => IsInspection.store.raisesOnly.bind fun s => raisesOnly_pure _

/-- Converting an object for its plain text is reading it off what the attempt settles on. -/
theorem run_convert (logger o : Obj) (s : Session) : (convert logger o).run s =
    (((Attempt.start (.object o) s).settled logger).1.map
        ((Attempt.start (.object o) s).settled logger).2.store.plain,
      ((Attempt.start (.object o) s).settled logger).2) := by
  have hconversion : (conversion logger o).run s = (Attempt.start (.object o) s).settled logger :=
    run_conversionEither logger (.object o) s
  rw [convert, run_plain, hconversion]

end Run

namespace Attempt

variable {logger : Obj} {a : Attempt}

/-- A failure is an ordinary exception raised by the conversion of an object. -/
theorem failure?_eq_some_iff {f : Failure} : a.failure? = some f ↔
    a.value = .object f.object ∧ a.outcome = .error f.cause ∧
      f.cause.isOrdinary a.after.store = true := by
  rcases a with ⟨value, before, outcome, after⟩
  rcases f with ⟨o, cause⟩
  unfold failure?
  dsimp only
  split
  · next o' cause' =>
    split
    · next hc =>
      constructor
      · intro h
        cases h
        exact ⟨rfl, rfl, hc⟩
      · rintro ⟨ho, hcause, -⟩
        cases ho
        cases hcause
        rfl
    · next hc =>
      constructor
      · intro h
        cases h
      · rintro ⟨-, hcause, hc'⟩
        cases hcause
        exact absurd hc' hc
  · next hne =>
    constructor
    · intro h
      cases h
    · rintro ⟨ho, hcause, -⟩
      exact absurd hcause (hne _ _ ho)

/-- An interruption is what was raised, if that is no ordinary exception. -/
theorem interruption?_eq_some_iff {e : Raised} : a.interruption? = some e ↔
    a.outcome = .error e ∧ e.isOrdinary a.after.store = false :=
  Session.interruption?_eq_some_iff

/-- What is interrupted is no failure. -/
theorem failure?_eq_none_of_interruption? {e : Raised} (h : a.interruption? = some e) :
    a.failure? = none := by
  obtain ⟨he, hc⟩ := interruption?_eq_some_iff.mp h
  cases hf : a.failure? with
  | none => rfl
  | some f =>
    obtain ⟨-, hf', hc'⟩ := failure?_eq_some_iff.mp hf
    rw [he] at hf'
    cases hf'
    rw [hc] at hc'
    cases hc'

/-- What is no failure settles as it came out. -/
theorem settled_of_failure?_eq_none (h : a.failure? = none) :
    a.settled logger = (a.outcome, a.after) := by
  rw [settled, h]

/-- What is interrupted settles as it came out. -/
theorem settled_of_interruption? {e : Raised} (h : a.interruption? = some e) :
    a.settled logger = (.error e, a.after) := by
  rw [settled_of_failure?_eq_none (failure?_eq_none_of_interruption? h),
    (interruption?_eq_some_iff.mp h).1]

/-- A failure settles on what recovery gives. -/
theorem settled_of_failure?_eq_some {f : Failure} (h : a.failure? = some f) :
    a.settled logger = (((Run.recover logger f.object f.cause).run a.after).1.map .text,
      ((Run.recover logger f.object f.cause).run a.after).2) := by
  rw [settled, h]
  exact Run.run_map _ _ _

/-- Converting a value that is a text itself or nothing does not fail, so whatever is
raised is raised by the conversion of an object. -/
theorem exists_object_of_outcome_start {value : TextOrObj} {s : Session} {e : Raised}
    (h : (start value s).outcome = .error e) : ∃ o, value = .object o := by
  cases value with
  | text t => cases h
  | object o => exact ⟨o, rfl⟩

/-- An attempt settles on something raised exactly if it is interrupted, or recovery from
its failure raises something. -/
theorem settled_start_eq_error {value : TextOrObj} {s t : Session} {e : Raised} :
    (start value s).settled logger = (.error e, t) ↔
      (start value s).interruption? = some e ∧ t = (start value s).after ∨
      ∃ f, (start value s).failure? = some f ∧
        (Run.recover logger f.object f.cause).run (start value s).after = (.error e, t) := by
  cases hf : (start value s).failure? with
  | none =>
    rw [settled_of_failure?_eq_none hf, interruption?_eq_some_iff, Prod.mk.injEq]
    constructor
    · rintro ⟨he, rfl⟩
      obtain ⟨o, rfl⟩ := exists_object_of_outcome_start he
      refine .inl ⟨⟨he, eq_false_of_ne_true fun hc => ?_⟩, rfl⟩
      have hsome := failure?_eq_some_iff (f := ⟨o, e⟩).mpr ⟨rfl, he, hc⟩
      rw [hf] at hsome
      cases hsome
    · rintro (⟨⟨he, -⟩, rfl⟩ | ⟨f, hsome, -⟩)
      · exact ⟨he, rfl⟩
      · cases hsome
  | some f =>
    rw [settled_of_failure?_eq_some hf]
    constructor
    · intro h
      refine .inr ⟨f, rfl, ?_⟩
      rcases hr : (Run.recover logger f.object f.cause).run (start value s).after with ⟨q | x, u⟩
      · rw [hr] at h
        cases h
        rfl
      · rw [hr] at h
        cases h
    · rintro (⟨hi, -⟩ | ⟨g, hg, h⟩)
      · rw [failure?_eq_none_of_interruption? hi] at hf
        cases hf
      · cases hg
        rw [h]
        rfl

/-- Asking for a text issues no warning. -/
theorem warnings_after_start (value : TextOrObj) (s : Session) :
    (start value s).after.warnings = s.warnings :=
  ((Run.isInspection_asked value).within s).onlyLooks.sameLogging.warnings_eq

/-- The warnings after an attempt has been settled are those before it and the one of its
failure, if there is one. -/
theorem warnings_settled_start (h : Lenient.IsLoggerOrNull logger) (value : TextOrObj)
    (s : Session) : ((start value s).settled logger).2.warnings =
      s.warnings ++ ((start value s).warning? logger).toList := by
  rw [← warnings_after_start value s, warning?]
  cases hf : (start value s).failure? with
  | none =>
    rw [settled_of_failure?_eq_none hf]
    exact (List.append_nil _).symm
  | some f =>
    rw [settled_of_failure?_eq_some hf, Run.recover_eq]
    dsimp only
    rcases hi : (Run.identityText f.object).run (start value s).after with ⟨e | identity, t⟩
    · have ht := ((Run.within_identityText _).of_run hi).sameLogging.warnings_eq
      rw [Run.run_bind_of_error hi, ht]
      exact (List.append_nil _).symm
    · have ht := ((Run.within_identityText _).of_run hi).sameLogging.warnings_eq
      have hwarn := Run.run_warn h (Lenient.warningIntro ++ identity) f.cause t
      rw [Run.run_bind_of_ok hi]
      dsimp only
      rcases hw : (Run.weighFor (Lenient.loggerName logger) f.cause).run (t.readied logger) with
        ⟨e | attached, u⟩
      · have hu := ((Run.isInspection_weighFor _ _).within.of_run hw).onlyLooks.sameLogging
        rw [hw] at hwarn
        rw [Run.run_bind_of_error hwarn, hu.warnings_eq, Session.warnings_readied, ht]
        exact (List.append_nil _).symm
      · have hu := ((Run.isInspection_weighFor _ _).within.of_run hw).onlyLooks.sameLogging
        rw [hw] at hwarn
        have hcause := ((Run.isInspection_causeText f.cause).within
          (u.notified (Lenient.loggerName logger) (Lenient.warningIntro ++ identity) f.cause
            attached)).onlyLooks.sameLogging
        rw [Run.run_bind_of_ok hwarn, Run.run_map, hcause.warnings_eq, Session.warnings_notified,
          hu.warnings_eq, Session.warnings_readied, ht]
        rfl

/-- An exception that no class answers for can be looked at. -/
theorem isLogged_of_isTakenPlainly (h : ∀ f e, a.failure? = some f → f.cause = .thrown e →
    a.after.store.IsTakenPlainly e) : a.IsLogged logger := by
  intro f hf identity t ht
  have hstore : (t.readied logger).store = a.after.store := by
    rw [Session.store_readied]
    exact ((Run.within_identityText _).of_run ht).store_eq
  exact ⟨_, _, Run.run_weighFor_of_isTakenPlainly fun e he => hstore ▸ h f e hf he⟩

/-- If the object and the exception of a failure can be named, and looking at the exception
goes through where the warning is handled, the attempt settles on the apology. -/
theorem exists_settled_eq_ok (h : Lenient.IsLoggerOrNull logger) {f : Failure}
    (hf : a.failure? = some f)
    (ho : a.after.store.IsPlainlyNamed (a.after.store.typeOf f.object))
    (hc : a.after.store.IsPlainlyNamed (f.cause.type a.after.store))
    (hlogged : a.IsLogged logger) :
    ∃ identity t attached u name v, (Run.identityText f.object).run a.after = (.ok identity, t) ∧
      (Run.weighFor (Lenient.loggerName logger) f.cause).run (t.readied logger) =
        (.ok attached, u) ∧
      (Run.causeText f.cause).run (u.notified (Lenient.loggerName logger)
        (Lenient.warningIntro ++ identity) f.cause attached) = (.ok name, v) ∧
      a.settled logger = (.ok (.text (Lenient.apology identity name)), v) := by
  obtain ⟨p, hp⟩ := Session.exists_presents_of_isPlainlyNamed ho
  obtain ⟨identity, t, ht⟩ : ∃ identity t,
      (Run.identityText f.object).run a.after = (.ok identity, t) :=
    ⟨_, _, Run.run_identityText_of_presents hp⟩
  obtain ⟨attached, u, hu⟩ := hlogged f hf identity t ht
  have hwarn := Run.run_warn h (Lenient.warningIntro ++ identity) f.cause t
  rw [hu] at hwarn
  have hstore : (u.notified (Lenient.loggerName logger) (Lenient.warningIntro ++ identity)
      f.cause attached).store = a.after.store := by
    rw [Session.store_notified, ((Run.isInspection_weighFor _ _).within.of_run hu).store_eq,
      Session.store_readied]
    exact ((Run.within_identityText _).of_run ht).store_eq
  rw [← hstore] at hc
  obtain ⟨q, hq⟩ := Session.exists_presents_of_isPlainlyNamed hc
  obtain ⟨name, v, hcause⟩ : ∃ name v, (Run.causeText f.cause).run
      (u.notified (Lenient.loggerName logger) (Lenient.warningIntro ++ identity) f.cause attached) =
        (.ok name, v) := by
    rw [Run.causeText, Run.run_bind_of_ok (Run.run_store _)]
    exact ⟨_, _, Run.run_qualifiedName_inserted_of_presents hq⟩
  refine ⟨identity, t, attached, u, name, v, ht, hu, hcause, ?_⟩
  rw [settled_of_failure?_eq_some hf, Run.recover_eq, Run.run_bind_of_ok ht,
    Run.run_bind_of_ok hwarn, Run.run_map, hcause]
  rfl

end Attempt

namespace Listing

/-- Listing issues no warning. -/
theorem warnings_after_start (arguments : Obj) (s : Session) :
    (start arguments s).after.warnings = s.warnings :=
  (Run.within_itemsOf arguments s).warnings_eq

/-- A listing settles on something raised exactly if it is interrupted. -/
theorem settled_eq_error_iff {l : Listing} {e : Raised} :
    l.settled = .error e ↔ l.interruption? = some e := by
  rw [interruption?, Session.interruption?_eq_some_iff]
  unfold settled
  split
  · next items hitems =>
    rw [hitems]
    simp only [reduceCtorEq, false_and]
  · next cause hcause =>
    rw [hcause, Except.error.injEq]
    split
    · next hc =>
      constructor
      · intro h
        cases h
      · rintro ⟨rfl, hfalse⟩
        rw [hc] at hfalse
        cases hfalse
    · next hc =>
      rw [Except.error.injEq]
      constructor
      · rintro rfl
        exact ⟨rfl, eq_false_of_ne_true hc⟩
      · exact And.left

end Listing

end LenientText
