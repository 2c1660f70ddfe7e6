import LenientText.Proofs.Lenient.Containment

/-!
# Order and warnings of whole calls

Where the classes of the objects that cannot be converted, and of the exceptions that
they raise, have plain names, and these exceptions can be looked at for the warning, a call
does its work in one order: the template is converted, the arguments are listed completely,
every item is converted once, whether or not the template has a place for it, and the
template is filled. Each failure issues one warning before anything else is converted, and
nothing else issues one. An exception that is no ordinary one ends the call at once, and
nothing else ends it before the template is filled. Plain names alone are not enough: what
an exception raises when it is looked at leaves the call in place of the warning.
-/

namespace LenientText

/-- A call keeps to the order of its steps, warns of each failure once, and is ended by
interruptions only before the template is filled. -/
structure Account.IsDisciplined (logger : Obj) (template : TextOrObj) (arguments : Obj)
    (s : Session) (h : Account) (r : Except Raised Text) (t : Session) : Prop where
  /-- Template, listing, items and filling follow one another, each step in the session in
  which the one before it has been settled. -/
  course : Course logger template arguments s h r t
  /-- The converted values are the listed items in order, up to the first whose
  conversion is interrupted, and all of them if the template is filled. -/
  values_isPrefix : ∀ l ∈ h.listing?, ∀ items, l.settled = .ok items →
    h.items.map Attempt.value <+: items.map .object ∧
      (h.filling?.isSome = true → h.items.map Attempt.value = items.map .object)
  /-- The call gives or raises what filling the template does, if it comes to that, and
  otherwise gives no text. -/
  filled : (∀ f ∈ h.filling?, r = f.outcome ∧ t = f.after) ∧
    (r.isOk = true → h.filling?.isSome = true)
  /-- A failure issues a warning with the identity of the object and the exception, and
  the apology with both names stands for the object. -/
  warning?_of_failure : ∀ a ∈ h.attempts, ∀ f ∈ a.failure?,
    ∃ identity u attached v name w, (Run.identityText f.object).run a.after = (.ok identity, u) ∧
      (Run.weighFor (Lenient.loggerName logger) f.cause).run (u.readied logger) =
        (.ok attached, v) ∧
      a.warning? logger = some (v.warning (Lenient.loggerName logger)
        (Lenient.warningIntro ++ identity) f.cause) ∧
      (Run.causeText f.cause).run (v.notified (Lenient.loggerName logger)
        (Lenient.warningIntro ++ identity) f.cause attached) = (.ok name, w) ∧
      a.settled logger = (.ok (.text (Lenient.apology identity name)), w)
  /-- What is no failure issues no warning. -/
  warning?_of_success : ∀ a ∈ h.attempts, a.failure? = none → a.warning? logger = none
  /-- The warning of an attempt is issued while it is settled, and no other one is issued
  before the next attempt begins. -/
  warnings_settled : ∀ a ∈ h.attempts, a.after.warnings = a.before.warnings ∧
    (a.settled logger).2.warnings = a.before.warnings ++ (a.warning? logger).toList
  /-- Listing issues no warning. -/
  warnings_listing : ∀ l ∈ h.listing?, l.after.warnings = l.before.warnings
  /-- The warnings of the call are those of its failures, in order. -/
  warnings_eq : t.warnings = s.warnings ++ h.attempts.filterMap (·.warning? logger)
  /-- An interrupted conversion issues no warning and is the last step, and the call raises
  what it raised. -/
  interrupted : ∀ a ∈ h.attempts, ∀ e ∈ a.interruption?,
    r = .error e ∧ t = a.after ∧ h.attempts.getLast? = some a ∧ h.filling? = none ∧
      a.warning? logger = none
  /-- Nothing is listed if the conversion of the template is interrupted. -/
  listing?_of_interrupted : ∀ e ∈ h.template.interruption?, h.listing? = none
  /-- An interrupted listing is the last step, and the call raises what it raised. -/
  listing_interrupted : ∀ l ∈ h.listing?, ∀ e ∈ l.interruption?,
    r = .error e ∧ t = l.after ∧ h.items = [] ∧ h.filling? = none
  /-- The call raises nothing else before the template is filled. -/
  interruption_of_error : ∀ e, r = .error e → h.filling? = none →
    (∃ a ∈ h.attempts, a.interruption? = some e) ∨ ∃ l ∈ h.listing?, l.interruption? = some e

variable {logger : Obj}

/-- A session with a list of a text, an object twice, and the text again. The class of
the object scripts a text that throws an ordinary exception at first and interrupts the
process from then on. -/
def interruptedSession : Session :=
  { Session.start 0 with
    store := ⟨#[
      ⟨.known .type, .cls { plainClass (.ofString "Bad") [.known .object] with
        module? := some (.cell 6)
        text? := some ⟨.throws (.cell 1), [.throws (.cell 2)]⟩ }⟩,
      ⟨.known .runtimeError, .exception [] .none⟩,
      ⟨.known .keyboardInterrupt, .exception [] .none⟩,
      ⟨.cell 0, .bare⟩,
      ⟨.known .text, .text [0x61]⟩,
      ⟨.known .list, .list [.cell 4, .cell 3, .cell 3, .cell 4]⟩,
      ⟨.known .text, .text [0x6D]⟩]⟩ }

/-- The account of formatting the list in that session, with the root for a logger. -/
def interruptedAccount : Account :=
  .of (.logger Registry.rootName) (.text [0x25, 0x73]) (.cell 5) interruptedSession

/-- The only failure there is the first conversion of the object. -/
theorem failure?_interruptedAccount {a : Attempt} {f : Failure}
    (ha : a ∈ interruptedAccount.attempts)
    (hf : a.failure? = some f) :
    f = ⟨.cell 3, .thrown (.cell 1)⟩ ∧ a.after.store = interruptedSession.store := by
  have hattempts : interruptedAccount.attempts.map (fun a => (a.failure?, a.after.store)) =
      [(none, interruptedSession.store), (none, interruptedSession.store),
        (some ⟨.cell 3, .thrown (.cell 1)⟩, interruptedSession.store),
        (none, interruptedSession.store)] := rfl
  have hmem := List.mem_map_of_mem (f := fun a : Attempt => (a.failure?, a.after.store)) ha
  rw [hattempts, hf] at hmem
  simpa only [List.mem_cons, Prod.mk.injEq, reduceCtorEq, false_and, Option.some.injEq,
    List.not_mem_nil, or_false, false_or] using hmem

/-- The classes concerned there have plain names, and no class answers for the exception. -/
theorem isPlain_interruptedAccount : interruptedAccount.IsPlain (.logger Registry.rootName) where
  isPlainlyNamed := by
    intro a ha f hf
    obtain ⟨rfl, hstore⟩ := failure?_interruptedAccount ha hf
    rw [hstore]
    refine ⟨Store.isPlainlyNamed_of_typeOf (c := .cell 0) rfl ?_, Store.isPlainlyNamed_known _ _⟩
    intro r h
    cases h
    exact .inr ⟨rfl, _, rfl⟩
  isLogged := by
    intro a ha
    refine Attempt.isLogged_of_isTakenPlainly fun f e hf hcause => ?_
    obtain ⟨rfl, hstore⟩ := failure?_interruptedAccount ha hf
    cases hcause
    rw [hstore]
    exact Store.isTakenPlainly_of_known rfl

/-- A session with a list of one object. Its class scripts a text that throws, and the class
of what is thrown answers the question for its truth by throwing something else. -/
def evasiveSession : Session :=
  { Session.start 0 with
    store := ⟨#[
      ⟨.known .type, .cls { plainClass (.ofString "Bad") [.known .object] with
        text? := some ⟨.throws (.cell 3), []⟩ }⟩,
      ⟨.known .type, .cls { plainClass (.ofString "Evasive")
          [.known .exception, .known .baseException, .known .object] with
        methods := [(.truth, .throws (.cell 4))] }⟩,
      ⟨.cell 0, .bare⟩,
      ⟨.cell 1, .exception [] .none⟩,
      ⟨.known .runtimeError, .exception [] .none⟩,
      ⟨.known .list, .list [.cell 2]⟩]⟩ }

/-- The account of formatting the list in that session, with the root for a logger. -/
def evasiveAccount : Account :=
  .of (.logger Registry.rootName) (.text [0x25, 0x73]) (.cell 5) evasiveSession

end LenientText
