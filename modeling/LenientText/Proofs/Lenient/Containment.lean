import LenientText.Proofs.Lenient.Account

/-!
# Which exceptions leave a call

An exception that is no ordinary one leaves a call by design. An ordinary one does so
exactly if recovery from some failure raises one, or filling the template does. Recovery
raises one where the object that could not be converted cannot be named, where its
exception is looked at for the warning and its class answers with another exception, or
where the class of its exception cannot be named. Filling raises one where the converted
template is an object whose class answers for its places or its parts. Where names are plain
and no class answers, no ordinary exception leaves a call. A metaclass whose hook for the
name throws is enough for one to leave, even if the qualified name is there and is all that
is shown.
-/

namespace LenientText

/-- A computation raises an ordinary exception. -/
def Run.RaisesOrdinary {α : Type} (x : Run α) (s : Session) : Prop :=
  ∃ e t, x.run s = (.error e, t) ∧ e.isOrdinary t.store = true

/-- The conversion of an object failed, and recovery raises an ordinary exception: naming the
object does, or looking at what it raised where the warning is handled, or naming the class of
that after the warning. -/
def Attempt.IsBeyondRecovery (logger : Obj) (a : Attempt) : Prop :=
  ∃ f, a.failure? = some f ∧
    ((Run.identityText f.object).RaisesOrdinary a.after ∨
      ∃ identity t, (Run.identityText f.object).run a.after = (.ok identity, t) ∧
        ((Run.weighFor (Lenient.loggerName logger) f.cause).RaisesOrdinary (t.readied logger) ∨
          ∃ attached u, (Run.weighFor (Lenient.loggerName logger) f.cause).run (t.readied logger) =
              (.ok attached, u) ∧
            (Run.causeText f.cause).RaisesOrdinary (u.notified (Lenient.loggerName logger)
              (Lenient.warningIntro ++ identity) f.cause attached)))

namespace Account

/-- An ordinary exception is not contained: recovery from some failure raises one, or filling
the template does. -/
def IsUncontained (logger : Obj) (h : Account) : Prop :=
  (∃ a ∈ h.attempts, a.IsBeyondRecovery logger) ∨
    ∃ f, h.filling? = some f ∧ (Run.filled f.template f.texts).RaisesOrdinary f.before

/-- The classes of all objects that could not be converted, and of the exceptions that they
raised, have plain names. -/
def IsPlainlyNamed (h : Account) : Prop :=
  ∀ a ∈ h.attempts, ∀ f, a.failure? = some f →
    a.after.store.IsPlainlyNamed (a.after.store.typeOf f.object) ∧
      a.after.store.IsPlainlyNamed (f.cause.type a.after.store)

/-- Nothing that failures lead to stands in the way of recovery. -/
structure IsPlain (logger : Obj) (h : Account) : Prop where
  /-- The classes concerned have plain names. -/
  isPlainlyNamed : h.IsPlainlyNamed
  /-- Where warnings of the exceptions are handled, the exceptions can be looked at. -/
  isLogged : ∀ a ∈ h.attempts, a.IsLogged logger

end Account

variable {logger : Obj}

namespace Run

section

variable {α β : Type} {x : Run α} {f : α → Run β} {s t : Session} {a : α} {e : Raised}

/-- A computation that ends with something raised raises an ordinary exception if that is
one. -/
theorem raisesOrdinary_of_error (h : x.run s = (.error e, t)) :
    x.RaisesOrdinary s ↔ e.isOrdinary t.store = true := by
  constructor
  · rintro ⟨q, u, hrun, hq⟩
    rw [h] at hrun
    cases hrun
    exact hq
  · exact fun he => ⟨e, t, h, he⟩

/-- A computation that gives a value raises no ordinary exception. -/
theorem not_raisesOrdinary_of_ok (h : x.run s = (.ok a, t)) : ¬x.RaisesOrdinary s := by
  rintro ⟨e, u, hrun, -⟩
  rw [h] at hrun
  cases hrun

/-- A sequence whose first part gives a value raises what the other part does. -/
theorem raisesOrdinary_bind_of_ok (h : x.run s = (.ok a, t)) :
    (x >>= f).RaisesOrdinary s ↔ (f a).RaisesOrdinary t := by
  rw [RaisesOrdinary, run_bind_of_ok h]
  exact Iff.rfl

/-- A sequence whose first part raises something raises that. -/
theorem raisesOrdinary_bind_of_error (h : x.run s = (.error e, t)) :
    (x >>= f).RaisesOrdinary s ↔ x.RaisesOrdinary s := by
  rw [raisesOrdinary_of_error h, raisesOrdinary_of_error (run_bind_of_error h)]

end

end Run

/-- An attempt settles on an ordinary exception exactly if it is beyond recovery. -/
theorem Attempt.isBeyondRecovery_start_iff (hg : Lenient.IsLoggerOrNull logger)
    {value : TextOrObj} {s : Session} : (start value s).IsBeyondRecovery logger ↔
      ∃ e t, (start value s).settled logger = (.error e, t) ∧ e.isOrdinary t.store = true := by
  constructor
  · rintro ⟨f, hf, hrecover⟩
    have hsettled : ∀ {e t}, (Run.recover logger f.object f.cause).run (start value s).after =
        (.error e, t) → (start value s).settled logger = (.error e, t) :=
      fun hr => settled_start_eq_error.mpr (.inr ⟨f, hf, hr⟩)
    rcases hrecover with ⟨e, t, hi, he⟩ | ⟨identity, u, hi, ⟨e, t, hw, he⟩ | ⟨attached, v, hw, e, t,
      hc, he⟩⟩
    · exact ⟨e, t, hsettled ((Run.run_recover_eq_error hg f.cause).mpr (.inl hi)), he⟩
    · exact ⟨e, t, hsettled ((Run.run_recover_eq_error hg f.cause).mpr
        (.inr ⟨identity, u, hi, .inl hw⟩)), he⟩
    · exact ⟨e, t, hsettled ((Run.run_recover_eq_error hg f.cause).mpr
        (.inr ⟨identity, u, hi, .inr ⟨attached, v, hw, hc⟩⟩)), he⟩
  · rintro ⟨e, t, hsettled, he⟩
    rcases settled_start_eq_error.mp hsettled with ⟨hi, rfl⟩ | ⟨f, hf, hr⟩
    · rw [(interruption?_eq_some_iff.mp hi).2] at he
      cases he
    · refine ⟨f, hf, ?_⟩
      rcases (Run.run_recover_eq_error hg f.cause).mp hr with
        hi | ⟨identity, u, hi, hw | ⟨attached, v, hw, hc⟩⟩
      · exact .inl ⟨e, t, hi, he⟩
      · exact .inr ⟨identity, u, hi, .inl ⟨e, t, hw, he⟩⟩
      · exact .inr ⟨identity, u, hi, .inr ⟨attached, v, hw, e, t, hc, he⟩⟩

/-- Where the classes concerned have plain names and their exceptions can be looked at, an
attempt settles on something raised only if it is interrupted. -/
theorem Account.IsPlain.interruption?_of_settled (hg : Lenient.IsLoggerOrNull logger)
    {h : Account} (hplain : h.IsPlain logger) {value : TextOrObj} {s t : Session} {e : Raised}
    (ha : Attempt.start value s ∈ h.attempts)
    (hsettled : (Attempt.start value s).settled logger = (.error e, t)) :
    (Attempt.start value s).interruption? = some e := by
  rcases Attempt.settled_start_eq_error.mp hsettled with ⟨hi, -⟩ | ⟨f, hf, -⟩
  · exact hi
  · obtain ⟨ho, hc⟩ := hplain.isPlainlyNamed _ ha f hf
    obtain ⟨_, _, _, _, _, _, -, -, -, hok⟩ :=
      Attempt.exists_settled_eq_ok hg hf ho hc (hplain.isLogged _ ha)
    rw [hsettled] at hok
    cases hok

namespace Run

/-- Converting a value raises an ordinary exception exactly if the attempt is beyond
recovery. -/
theorem raisesOrdinary_conversionEither_iff (hg : Lenient.IsLoggerOrNull logger)
    {value : TextOrObj} {s : Session} : (conversionEither logger value).RaisesOrdinary s ↔
      (Attempt.start value s).IsBeyondRecovery logger := by
  rw [Attempt.isBeyondRecovery_start_iff hg, RaisesOrdinary, run_conversionEither]

/-- Converting objects one after the other raises an ordinary exception exactly if one of the
attempts is beyond recovery. -/
theorem raisesOrdinary_mapM_convert_iff (hg : Lenient.IsLoggerOrNull logger) {items : List Obj}
    {s : Session} : (items.mapM (convert logger)).RaisesOrdinary s ↔
      ∃ a ∈ Attempt.all logger items s, a.IsBeyondRecovery logger := by
  have hseries := Series.mapM_convert logger items s
  constructor
  · rintro ⟨e, t, hrun, he⟩
    rw [hrun] at hseries
    obtain ⟨a, ha, hsettled⟩ := hseries.exists_settled_error
    obtain ⟨value, u, rfl⟩ := hseries.exists_eq_start ha
    exact ⟨_, ha, (Attempt.isBeyondRecovery_start_iff hg).mpr ⟨e, t, hsettled, he⟩⟩
  · rintro ⟨a, ha, hbeyond⟩
    obtain ⟨value, u, rfl⟩ := hseries.exists_eq_start ha
    obtain ⟨e, t, hsettled, he⟩ := (Attempt.isBeyondRecovery_start_iff hg).mp hbeyond
    obtain ⟨hr, ht, -⟩ := hseries.eq_of_settled_error ha hsettled
    exact ⟨e, t, Prod.ext hr ht, he⟩

end Run

namespace Account

variable {first : Attempt} {listing? : Option Listing}

/-- Where it came to neither items nor filling, all depends on the template. -/
theorem isUncontained_template_iff : IsUncontained logger ⟨first, listing?, [], none⟩ ↔
    first.IsBeyondRecovery logger := by
  constructor
  · rintro (⟨a, ha, h⟩ | ⟨f, hf, -⟩)
    · rw [List.mem_singleton.mp ha] at h
      exact h
    · cases hf
  · exact fun h => .inl ⟨first, List.mem_singleton_self first, h⟩

/-- Where the template was converted, all depends on the items and on filling. -/
theorem isUncontained_rest_iff (hfirst : ¬first.IsBeyondRecovery logger) {items : List Attempt}
    {filling? : Option Filling} : IsUncontained logger ⟨first, listing?, items, filling?⟩ ↔
      (∃ a ∈ items, a.IsBeyondRecovery logger) ∨
        ∃ f, filling? = some f ∧ (Run.filled f.template f.texts).RaisesOrdinary f.before := by
  refine or_congr ?_ Iff.rfl
  constructor
  · rintro ⟨a, ha, h⟩
    rcases List.mem_cons.mp ha with rfl | ha
    · exact absurd h hfirst
    · exact ⟨a, ha, h⟩
  · rintro ⟨a, ha, h⟩
    exact ⟨a, List.mem_cons_of_mem first ha, h⟩

end Account

namespace Run

/-- Once the template is converted and the items are there, an ordinary exception leaves
exactly if the account of what follows does not contain it. -/
theorem raisesOrdinary_withItems_iff (hg : Lenient.IsLoggerOrNull logger) {first : Attempt}
    (hfirst : ¬first.IsBeyondRecovery logger) (listing? : Option Listing) (given : TextOrObj)
    (items : List Obj) (s : Session) :
    (items.mapM (convert logger) >>= filled given).RaisesOrdinary s ↔
      (Account.withItems logger first listing? given items s).IsUncontained logger := by
  rw [Account.withItems, Account.isUncontained_rest_iff hfirst,
    ← raisesOrdinary_mapM_convert_iff hg]
  rcases hrun : (items.mapM (convert logger)).run s with ⟨e | texts, t⟩
  · rw [raisesOrdinary_bind_of_error hrun]
    constructor
    · exact .inl
    · rintro (h | ⟨f, hf, -⟩)
      · exact h
      · cases hf
  · rw [raisesOrdinary_bind_of_ok hrun]
    constructor
    · exact fun h => .inr ⟨_, rfl, h⟩
    · rintro (h | ⟨f, hf, h⟩)
      · exact absurd h (not_raisesOrdinary_of_ok hrun)
      · cases hf
        exact h

/-- An ordinary exception leaves a call with listed arguments exactly if its account does not
contain it. -/
theorem raisesOrdinary_formatArguments_iff (hg : Lenient.IsLoggerOrNull logger)
    (template : TextOrObj) (arguments : Obj) (s : Session) :
    (formatArguments logger template arguments).RaisesOrdinary s ↔
      (Account.of logger template arguments s).IsUncontained logger := by
  have hrun := run_conversionEither logger template s
  have hiff : (conversionEither logger template).RaisesOrdinary s ↔
      (Attempt.start template s).IsBeyondRecovery logger :=
    raisesOrdinary_conversionEither_iff hg
  unfold Account.of
  dsimp only
  rcases hsettled : (Attempt.start template s).settled logger with ⟨e | given, t⟩ <;> dsimp only
  · rw [hsettled] at hrun
    rw [formatArguments, raisesOrdinary_bind_of_error hrun, hiff,
      Account.isUncontained_template_iff]
  · rw [hsettled] at hrun
    have hfirst : ¬(Attempt.start template s).IsBeyondRecovery logger :=
      fun h => not_raisesOrdinary_of_ok hrun (hiff.mpr h)
    by_cases hnull : arguments = .null
    · subst hnull
      rw [formatArguments, raisesOrdinary_bind_of_ok hrun, if_pos rfl,
        Account.isUncontained_rest_iff hfirst]
      constructor
      · exact fun h => .inr ⟨_, rfl, h⟩
      · rintro (⟨a, ha, -⟩ | ⟨f, hf, h⟩)
        · cases ha
        · cases hf
          exact h
    · rw [formatArguments_of_ne_null logger template hnull, raisesOrdinary_bind_of_ok hrun,
        if_neg hnull]
      have hlist := run_argumentsOf arguments t
      cases hlisted : (Listing.start arguments t).settled with
      | error e =>
        rw [hlisted] at hlist
        obtain ⟨-, he⟩ :=
          Session.interruption?_eq_some_iff.mp (Listing.settled_eq_error_iff.mp hlisted)
        rw [raisesOrdinary_bind_of_error hlist, raisesOrdinary_of_error hlist, he,
          Account.isUncontained_template_iff]
        exact ⟨fun h => (Bool.false_ne_true h).elim, fun h => (hfirst h).elim⟩
      | ok items =>
        rw [hlisted] at hlist
        rw [raisesOrdinary_bind_of_ok hlist]
        exact raisesOrdinary_withItems_iff hg hfirst _ _ _ _

/-- An ordinary exception leaves a call with given items exactly if its account does not
contain it. -/
theorem raisesOrdinary_format_iff (hg : Lenient.IsLoggerOrNull logger) (template : TextOrObj)
    (items : List Obj) (s : Session) : (format logger template items).RaisesOrdinary s ↔
      (Account.ofItems logger template items s).IsUncontained logger := by
  have hrun := run_conversionEither logger template s
  have hiff : (conversionEither logger template).RaisesOrdinary s ↔
      (Attempt.start template s).IsBeyondRecovery logger :=
    raisesOrdinary_conversionEither_iff hg
  unfold Account.ofItems
  dsimp only
  rcases hsettled : (Attempt.start template s).settled logger with ⟨e | given, t⟩ <;> dsimp only
  · rw [hsettled] at hrun
    rw [format, raisesOrdinary_bind_of_error hrun, hiff, Account.isUncontained_template_iff]
  · rw [hsettled] at hrun
    have hfirst : ¬(Attempt.start template s).IsBeyondRecovery logger :=
      fun h => not_raisesOrdinary_of_ok hrun (hiff.mpr h)
    rw [format, raisesOrdinary_bind_of_ok hrun]
    exact raisesOrdinary_withItems_iff hg hfirst _ _ _ _

end Run

/-- A session with a list of one object. Its class scripts a text that throws, and the
class of its class a name that throws. -/
def eagerSession : Session :=
  { Session.start Session.defaultIdentity with
    store := ⟨#[
      ⟨.known .type, .cls { plainClass (.ofString "Meta") [.known .type, .known .object] with
        attributes := [(.name, ⟨.throws (.cell 4), []⟩)] }⟩,
      ⟨.cell 0, .cls { plainClass (.ofString "Eager") [.known .object] with
        text? := some ⟨.throws (.cell 3), []⟩ }⟩,
      ⟨.cell 1, .bare⟩,
      ⟨.known .runtimeError, .exception [] .none⟩,
      ⟨.known .valueError, .exception [] .none⟩,
      ⟨.known .list, .list [.cell 2]⟩]⟩ }

/-- No ordinary exception leaves a call if nothing stands in the way of recovery and the
converted template is cut plainly. -/
theorem Run.not_raisesOrdinary_of_isPlain (hg : Lenient.IsLoggerOrNull logger)
    {template : TextOrObj} {arguments : Obj} {s : Session}
    (h : (Account.of logger template arguments s).IsPlain logger)
    (hcuts : ∀ f, (Account.of logger template arguments s).filling? = some f →
      f.before.store.CutsPlainly f.template) :
    ¬(formatArguments logger template arguments).RaisesOrdinary s := by
  rw [raisesOrdinary_formatArguments_iff hg]
  have hcourse := Course.formatArguments logger template arguments s
  rintro (⟨a, ha, hbeyond⟩ | ⟨f, hf, hfilled⟩)
  · obtain ⟨value, u, rfl⟩ := hcourse.exists_eq_start ha
    obtain ⟨e, t, hsettled, he⟩ := (Attempt.isBeyondRecovery_start_iff hg).mp hbeyond
    have hi := h.interruption?_of_settled hg ha hsettled
    have ht : t = (Attempt.start value u).after := by
      rw [Attempt.settled_of_interruption? hi] at hsettled
      exact (Prod.mk.inj hsettled).2.symm
    rw [ht, (Attempt.interruption?_eq_some_iff.mp hi).2] at he
    cases he
  · exact not_raisesOrdinary_of_ok (run_filled_of_cutsPlainly (hcuts f hf) f.texts) hfilled

end LenientText
