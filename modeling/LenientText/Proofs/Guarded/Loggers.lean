import LenientText.Proofs.Guarded.Arguments
import LenientText.Proofs.Logging.Creation
import LenientText.Proofs.Object.RealClass

/-!
# Loggers that are asked for by name

Asking for a logger calls hooks, creates one logger at most, and does nothing else. Who
asks with nothing or with a nonempty text is given the logger of that name, unless the
check of the argument raises something, which it does not if no class answers for the
argument. So the loggers that a sequence of calls gives correspond to the names that were
asked for, and each of them stays where it was created. The hint excludes the empty text,
which would mean the root. It does not exclude the name of the root, and under that name the
root is given.
-/

namespace LenientText

/-- Hooks are called and loggers are created, and the objects stay the same. -/
structure Session.OnlyAsks (s t : Session) : Prop where
  /-- The objects. -/
  store_eq : t.store = s.store
  /-- The loggers. -/
  onlyCreates : s.registry.OnlyCreates t.registry

instance : IsPreorder Session Session.OnlyAsks where
  refl s := ⟨rfl, refl s.registry⟩
  trans _ _ _ h k :=
    ⟨k.store_eq.trans h.store_eq, IsTrans.trans _ _ _ h.onlyCreates k.onlyCreates⟩

/-- Calling hooks creates no logger. -/
theorem Session.OnlyCalls.onlyAsks {s t : Session} (h : s.OnlyCalls t) : s.OnlyAsks t := by
  refine ⟨h.store_eq, ?_⟩
  rw [h.onlyLooks.sameLogging.registry_eq]
  exact refl s.registry

namespace Store

/-- An argument that asks for a logger: nothing, or a text with at least one code
point. -/
def IsRequest (s : Store) (o : Obj) : Prop := o = .null ∨ ∃ t, s.IsText o t ∧ t ≠ []

/-- The name that is asked for. Nothing asks for the logger of the package. -/
def requestedName (s : Store) : Obj → Text
  | .null => Guarded.packageLogger
  | o => s.plain (.object o)

variable {s : Store} {o : Obj} {t : Text}

/-- A text asks for the logger whose name it is. -/
theorem IsText.requestedName_eq (h : s.IsText o t) : s.requestedName o = t := by
  have hplain : s.requestedName o = s.plain (.object o) := by
    cases o with
    | null => exact absurd rfl h.ne_null
    | _ => rfl
  rw [hplain, h.plain_eq]

/-- A request meets the hint for names. -/
theorem IsRequest.isMetBy (h : s.IsRequest o) :
    Hint.nonemptyTextOrNull.isMetBy s o = true := by
  rcases h with rfl | ⟨t, htext, hne⟩
  · rfl
  · change (s.isA o .text && s.isTrue o || _) = true
    rw [htext.isA, isTrue_of_content htext.content_eq, List.isEmpty_eq_false_iff.mpr hne,
      Bool.not_false, Bool.true_and, Bool.true_or]

/-- A request is taken for what it holds. -/
theorem IsRequest.isTakenPlainly (h : s.IsRequest o) : s.IsTakenPlainly o := by
  rcases h with rfl | ⟨t, htext, -⟩
  · exact isTakenPlainly_of_known rfl
  · exact htext.isTakenPlainly

/-- The logger of a name is the root exactly if the name is that of the root. -/
theorem typeOf_logger_eq_rootLogger :
    s.typeOf (.logger t) = .known .rootLogger ↔ t = Registry.rootName := by
  have htype : s.typeOf (.logger t) =
      .known (if t = Registry.rootName then .rootLogger else .logger) := rfl
  rw [htype, Obj.known.injEq]
  split
  · next h => exact iff_of_true rfl h
  · next h => exact iff_of_false (fun hclass => by cases hclass) h

/-- No request asks for the empty name. -/
theorem IsRequest.requestedName_ne_nil (h : s.IsRequest o) : s.requestedName o ≠ [] := by
  have hpackage : Guarded.packageLogger ≠ [] := by decide
  rcases h with rfl | ⟨t, htext, ht⟩
  · exact hpackage
  · rw [htext.requestedName_eq]
    exact ht

end Store

namespace Guarded

open Run Session

variable {s : Session} {o : Obj} {name : Text}

/-- The logger of a name that is not empty is given under this name. -/
theorem run_loggerOf (h : name ≠ []) (s : Session) : (loggerOf name).run s =
    (.ok (.logger name), { s with registry := s.registry.ensure name }) := by
  have hname : (if Registry.isRoot name then Registry.rootName else name) = name := by
    split
    · next hroot => exact ((Registry.isRoot_iff h).mp hroot).symm
    · rfl
  rw [loggerOf, hname]
  rfl

/-- Giving the logger of a name only creates. -/
theorem within_loggerOf (name : Text) : Within OnlyAsks (loggerOf name) :=
  fun s => ⟨rfl, .ensure s.registry name⟩

section

variable {check : Checker}

/-- Asking with something is checking it, and searching for the logger whose name it
holds. -/
theorem logger_of_ne_null (check : Checker) (h : o ≠ .null) : logger check o =
    check.argument .nonemptyTextOrNull o >>= fun _ => truthOf o >>= fun b =>
      if !b then return .logger Registry.rootName
      else isInstance o .text >>= fun isText =>
        if isText then equalsText Registry.rootName (.object o) >>= fun isRoot =>
          if isRoot then return .logger Registry.rootName else namedLogger o
        else namedLogger o := by
  cases o with
  | null => exact absurd rfl h
  | _ => rfl

/-- Asking for a logger calls hooks and creates loggers, and does nothing else, whatever
the argument is. -/
theorem within_logger (hcheck : check.IsSound) (o : Obj) : Within OnlyAsks (logger check o) := by
  have hargument : Within OnlyAsks (check.argument .nonemptyTextOrNull o) :=
    (hcheck.within_argument _ o).mono OnlyCalls.onlyAsks
  by_cases hnull : o = .null
  · subst hnull
    exact hargument.bind fun _ => within_loggerOf packageLogger
  · have hlook : ∀ {α : Type} {x : Run α}, IsInspection x → Within OnlyAsks x :=
      fun h => h.within.mono OnlyCalls.onlyAsks
    have htext : Within OnlyAsks (textOrFault o Pretence.search) := by
      refine within_store.bind fun u => ?_
      split
      · exact within_pure _
      · exact within_fail _
    have hnamed : Within OnlyAsks (namedLogger o) := by
      refine (hlook (isInspection_isInstance o .text)).bind fun isText => ?_
      split
      · exact (within_fail _).bind fun _ => htext.bind within_loggerOf
      · exact htext.bind within_loggerOf
    rw [logger_of_ne_null check hnull]
    refine hargument.bind fun _ => (hlook (isInspection_truthOf o)).bind fun b => ?_
    split
    · exact within_pure _
    · refine (hlook (isInspection_isInstance o .text)).bind fun isText => ?_
      split
      · refine (hlook (isInspection_equals o _)).bind fun isRoot => ?_
        split
        · exact within_pure _
        · exact hnamed
      · exact hnamed

/-- The logger whose name a text holds is given. -/
theorem run_namedLogger_of_isText {t : Text} (h : s.store.IsText o t) :
    (namedLogger o).run s = (loggerOf t).run s := by
  rw [namedLogger, run_bind_of_ok (run_isInstance_of_isA h.isA), Bool.not_true,
    if_neg Bool.false_ne_true]
  exact run_bind_of_ok (run_textOrFault_of_isText h _)

/-- Who asks for a logger is given the logger of the name, unless the check of the argument
raises something. -/
theorem run_logger_of_isRequest (hcheck : check.IsSound) (h : s.store.IsRequest o) :
    (logger check o).run s = (check.argument .nonemptyTextOrNull o >>= fun _ =>
      loggerOf (s.store.requestedName o)).run s := by
  rcases hargument : (check.argument .nonemptyTextOrNull o).run s with ⟨e | ⟨⟩, t⟩
  · have hlogger : (logger check o).run s = (.error e, t) := run_bind_of_error hargument
    rw [hlogger, run_bind_of_error hargument]
  rw [run_bind_of_ok hargument]
  rcases h with rfl | ⟨name, htext, hne⟩
  · exact run_bind_of_ok hargument
  have hthere : t.store.IsText o name :=
    ((hcheck.within_argument _ o).of_run hargument).store_eq ▸ htext
  have hroot : (equalsText Registry.rootName (.object o)).run t =
      (.ok (name == Registry.rootName), t) := by
    rw [equalsText, run_equals_of_isTakenPlainly hthere.isTakenPlainly, hthere.text?_eq]
    rfl
  rw [logger_of_ne_null check htext.ne_null, htext.requestedName_eq, run_bind_of_ok hargument,
    run_bind_of_ok (run_truthOf_of_isText hthere), List.isEmpty_eq_false_iff.mpr hne,
    Bool.not_false, Bool.not_true, if_neg Bool.false_ne_true,
    run_bind_of_ok (run_isInstance_of_isA hthere.isA), if_pos rfl, run_bind_of_ok hroot]
  by_cases hname : name = Registry.rootName
  · subst hname
    rfl
  · rw [if_neg (by rwa [beq_iff_eq]), run_namedLogger_of_isText hthere]

end

end Guarded

/-- One call that asks for a logger. -/
structure Inquiry where
  /-- The argument. -/
  argument : Obj
  /-- The session in which it is made. -/
  before : Session
  /-- What comes of it. -/
  outcome : Except Raised Obj
  /-- The session that it leaves. -/
  after : Session

namespace Inquiry

/-- The call with an argument in a session. -/
def start (check : Checker) (o : Obj) (s : Session) : Inquiry :=
  ⟨o, s, ((Guarded.logger check o).run s).1, ((Guarded.logger check o).run s).2⟩

/-- The calls with some arguments, one after the other. A call that raises something does
not keep the next one from being made. -/
def all (check : Checker) : List Obj → Session → List Inquiry
  | [], _ => []
  | o :: rest, s => start check o s :: all check rest (start check o s).after

/-- The session after all of these calls. -/
def ending (check : Checker) : List Obj → Session → Session
  | [], s => s
  | o :: rest, s => ending check rest (start check o s).after

/-- The name that is asked for. -/
def name (a : Inquiry) : Text := a.before.store.requestedName a.argument

/-- Calls that ask for loggers are answered by the names that they ask for. -/
structure AreAnswered (s : Session) (inquiries : List Inquiry) (t : Session) : Prop where
  /-- A logger that is given has the name that was asked for, and keeps it. -/
  named : ∀ a ∈ inquiries, ∀ l, a.outcome = .ok l →
    l = .logger a.name ∧ (t.registry.logger a.name).name = a.name
  /-- It is the root exactly if the name of the root was asked for. -/
  root_iff : ∀ a ∈ inquiries, ∀ l, a.outcome = .ok l →
    (t.store.typeOf l = .known .rootLogger ↔ a.name = Registry.rootName)
  /-- Under any other name there is one logger below the root. -/
  existsUnique : ∀ a ∈ inquiries, ∀ l, a.outcome = .ok l → a.name ≠ Registry.rootName →
    ∃! k, k ∈ t.registry.loggers ∧ k.name = a.name
  /-- Two calls give the same logger exactly if they asked for the same name. -/
  eq_iff : ∀ a ∈ inquiries, ∀ b ∈ inquiries, ∀ l k, a.outcome = .ok l → b.outcome = .ok k →
    (l = k ↔ a.name = b.name)
  /-- A logger is given if the class of the argument has no hook for the claimed class. -/
  isOk : ∀ a ∈ inquiries,
    s.store.attributeHook? (s.store.typeOf a.argument) .ownClass = none → a.outcome.isOk = true
  /-- The loggers that were there keep their places, before those that were created. -/
  loggers_isPrefix : s.registry.loggers <+: t.registry.loggers

section

variable {check : Checker} {s : Session} {o l : Obj} {arguments : List Obj} {a : Inquiry}
  (hcheck : check.IsSound)

include hcheck

/-- One call only asks. -/
theorem onlyAsks_start (o : Obj) (s : Session) : s.OnlyAsks (start check o s).after :=
  Guarded.within_logger hcheck o s

/-- Any number of calls only ask. -/
theorem onlyAsks_ending (arguments : List Obj) (s : Session) :
    s.OnlyAsks (ending check arguments s) := by
  induction arguments generalizing s with
  | nil => exact refl s
  | cons o rest ih => exact IsTrans.trans _ _ _ (onlyAsks_start hcheck o s) (ih _)

/-- Each of the calls is made with one of the arguments, in a session that calls before it
have left, and further calls lead from it to the end. -/
theorem exists_eq_start (h : a ∈ all check arguments s) :
    ∃ o ∈ arguments, ∃ u, a = start check o u ∧ s.OnlyAsks u ∧
      a.after.OnlyAsks (ending check arguments s) := by
  induction arguments generalizing s with
  | nil => exact absurd h List.not_mem_nil
  | cons o rest ih =>
    rcases List.mem_cons.mp h with rfl | h
    · exact ⟨o, List.mem_cons_self, s, rfl, refl s, onlyAsks_ending hcheck rest _⟩
    · obtain ⟨o', ho', u, ha, hbefore, hafter⟩ := ih h
      exact ⟨o', List.mem_cons_of_mem _ ho', u, ha,
        IsTrans.trans _ _ _ (onlyAsks_start hcheck o s) hbefore, hafter⟩

/-- A logger that a call gives is the one of the name that was asked for, and is there
then. -/
theorem outcome_start_eq_ok (h : s.store.IsRequest o) (hl : (start check o s).outcome = .ok l) :
    l = .logger (s.store.requestedName o) ∧
      (start check o s).after.registry.IsThere (s.store.requestedName o) := by
  have hrun := Guarded.run_logger_of_isRequest hcheck h
  rcases hargument : (check.argument .nonemptyTextOrNull o).run s with ⟨e | ⟨⟩, t⟩
  · rw [Run.run_bind_of_error hargument] at hrun
    rw [start, hrun] at hl
    cases hl
  · rw [Run.run_bind_of_ok hargument, Guarded.run_loggerOf h.requestedName_ne_nil] at hrun
    rw [start, hrun] at hl ⊢
    exact ⟨(Except.ok.inj hl).symm, Registry.isThere_ensure _ _⟩

/-- If there is no hook for the claimed class, a call gives a logger. -/
theorem outcome_start_of_no_hook (h : s.store.IsRequest o)
    (hhook : s.store.attributeHook? (s.store.typeOf o) .ownClass = none) :
    (start check o s).outcome = .ok (.logger (s.store.requestedName o)) := by
  have hargument : (check.argument .nonemptyTextOrNull o).run s = (.ok (), s) :=
    hcheck.argument_of_isMetBy (.inr ⟨h.isTakenPlainly, hhook⟩) h.isMetBy
  rw [start, Guarded.run_logger_of_isRequest hcheck h, Run.run_bind_of_ok hargument,
    Guarded.run_loggerOf h.requestedName_ne_nil]

/-- At the end of the calls the logger that one of them gave is still the one of the name
that was asked for, and is still there. -/
theorem isThere_ending (h : ∀ o ∈ arguments, s.store.IsRequest o) (ha : a ∈ all check arguments s)
    (hl : a.outcome = .ok l) :
    l = .logger a.name ∧ a.name ≠ [] ∧ (ending check arguments s).registry.IsThere a.name := by
  obtain ⟨o, ho, u, rfl, hbefore, hafter⟩ := exists_eq_start hcheck ha
  have hrequest : u.store.IsRequest o := hbefore.store_eq ▸ h o ho
  obtain ⟨hgiven, hthere⟩ := outcome_start_eq_ok hcheck hrequest hl
  exact ⟨hgiven, hrequest.requestedName_ne_nil, hafter.onlyCreates.isThere hthere⟩

/-- Calls that ask for loggers in a proper registry are answered by the names that they
ask for. The root is among the answers exactly if a call asks for its name. -/
theorem areAnswered_all (hs : s.registry.IsProper) (h : ∀ o ∈ arguments, s.store.IsRequest o) :
    AreAnswered s (all check arguments s) (ending check arguments s) := by
  have hcreates := (onlyAsks_ending hcheck arguments s).onlyCreates
  have hproper := hcreates.isProper hs
  exact {
    named := by
      intro a ha l hl
      obtain ⟨hgiven, hname, hthere⟩ := isThere_ending hcheck h ha hl
      exact ⟨hgiven, hproper.name_logger hname hthere⟩
    root_iff := by
      intro a ha l hl
      obtain ⟨rfl, -, -⟩ := isThere_ending hcheck h ha hl
      exact Store.typeOf_logger_eq_rootLogger
    existsUnique := by
      intro a ha l hl hroot
      obtain ⟨-, hname, hthere⟩ := isThere_ending hcheck h ha hl
      refine hproper.existsUnique (hthere.resolve_left fun hmeans => ?_)
      exact hroot ((Registry.isRoot_iff hname).mp hmeans)
    eq_iff := by
      intro a ha b hb l k hl hk
      rw [(isThere_ending hcheck h ha hl).1, (isThere_ending hcheck h hb hk).1, Obj.logger.injEq]
    isOk := by
      intro a ha hhook
      obtain ⟨o, ho, u, rfl, hbefore, -⟩ := exists_eq_start hcheck ha
      have hrequest : u.store.IsRequest o := hbefore.store_eq ▸ h o ho
      have hnone : u.store.attributeHook? (u.store.typeOf o) .ownClass = none :=
        hbefore.store_eq ▸ hhook
      rw [outcome_start_of_no_hook hcheck hrequest hnone]
      rfl
    loggers_isPrefix := hcreates.loggers_isPrefix }

end

/-- A session with three texts: the name of the package, the name of the root, and a name
with a dot. -/
def namesSession : Session :=
  { Session.start 0 with
    store := ⟨#[
      ⟨.known .text, .text (.ofString "textkit")⟩,
      ⟨.known .text, .text (.ofString "root")⟩,
      ⟨.known .text, .text (.ofString "app.db")⟩]⟩ }

/-- Asking with nothing and with the name of the package gives one logger, and asking with
the name of the root gives the root. -/
theorem areAnswered_all_names :
    (all .strict [.null, .cell 2, .cell 0, .cell 1] namesSession).map Inquiry.outcome =
        [.ok (.logger (.ofString "textkit")), .ok (.logger (.ofString "app.db")),
          .ok (.logger (.ofString "textkit")), .ok (.logger (.ofString "root"))] ∧
      AreAnswered namesSession (all .strict [.null, .cell 2, .cell 0, .cell 1] namesSession)
        (ending .strict [.null, .cell 2, .cell 0, .cell 1] namesSession) := by
  have htext : ∀ {o t}, namesSession.store.entity o = ⟨.known .text, .text t⟩ → t ≠ [] →
      namesSession.store.IsRequest o := fun h hne => .inr ⟨_, Store.isText_of_entity h, hne⟩
  refine ⟨rfl, areAnswered_all Checker.isSound_strict Registry.isProper_initial ?_⟩
  intro o ho
  simp only [List.mem_cons, List.not_mem_nil, or_false] at ho
  rcases ho with rfl | rfl | rfl | rfl
  · exact .inl rfl
  · exact htext rfl (by decide)
  · exact htext rfl (by decide)
  · exact htext rfl (by decide)

/-- The name of the root is a request like any other, and the root is given. -/
theorem outcome_start_rootName : namesSession.registry.IsProper ∧
    namesSession.store.IsRequest (.cell 1) ∧
    (start .strict (.cell 1) namesSession).outcome = .ok (.logger Registry.rootName) ∧
    namesSession.store.typeOf (.logger Registry.rootName) = .known .rootLogger := by
  have hroot : namesSession.store.IsText (.cell 1) Registry.rootName :=
    Store.isText_of_entity rfl
  exact ⟨Registry.isProper_initial, .inr ⟨_, hroot, by decide⟩, rfl, rfl⟩

end Inquiry

end LenientText
