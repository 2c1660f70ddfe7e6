import LenientText.Proofs.Guarded.Arguments
import LenientText.Proofs.Lenient.Containment

/-!
# Conditions are formatted when they fail, and only then

A condition that holds ends the check at once: the template and its arguments are not looked
at. A condition that does not hold formats the template with its arguments, once and on the
default logger, and does nothing else. So the check does to the session what formatting does
to it, raises what formatting raises, and otherwise rejects with the text that formatting
gives. An exception object made from such a rejection is written as that text.
-/

namespace LenientText

/-- An object is the exception made from a fault: it is of the class of the fault, and its
only argument is a plain text with the message. -/
structure Store.IsMadeFrom (s : Store) (e : Obj) (f : Fault) : Prop where
  /-- The class is that of the fault. -/
  typeOf_eq : s.typeOf e = f.type
  /-- The only argument holds the message. -/
  exists_argument : ∃ a detail, s.content e = .exception [a] detail ∧ s.IsPlainText a ∧
    s.text? a = some f.message

namespace Run

variable {s : Session} {e : Obj} {f : Fault}

/-- An exception made from a rejection is written as the message. -/
theorem run_textOf_of_isMadeFrom (h : s.store.IsMadeFrom e f)
    (hf : f.class? = some .argumentError) : (textOf e).run s = (.ok f.message, s) := by
  obtain ⟨a, detail, hcontent, hplain, hmessage⟩ := h.exists_argument
  have htype : s.store.typeOf e = .known .argumentError := by
    rw [h.typeOf_eq, Fault.type, hf, Option.getD_some]
  have hhook : s.store.textHook? (.known .argumentError) = none :=
    s.store.findSome?_lineage_known .argumentError fun _ => rfl
  have hisA : ∀ k, s.store.isA e k = KnownClass.argumentError.derivesFrom k := by
    intro k
    rw [Store.isA, htype, Store.derivesFrom_known]
  -- The class is none of those that say more than their arguments.
  have hsaying : s.store.saying e [a] detail = .arguments := by
    unfold Store.saying
    simp only [hisA]
    rfl
  obtain ⟨depth, hdepth⟩ := exists_written_eq .text e
  have hexplained :
      (explanation (showWithin (depth + 1)) [] e [a] detail).run s = (.ok (.object a), s) := by
    rw [explanation, run_bind_of_ok (run_store s), hsaying]
    exact run_showWithin_text_of_isPlainText hplain depth []
  have hwritten : (written .text e).run s = (.ok (.object a), s) := by
    rw [hdepth]
    change (textWith (showWithin (depth + 1)) [] e).run s = _
    rw [textWith, run_bind_of_ok (run_store s), htype, hhook, hcontent]
    exact hexplained
  have hread : s.store.plain (.object a) = f.message := by
    rw [Store.plain, hmessage, Option.getD_some]
  rw [textOf, run_plain, hwritten]
  exact congrArg (fun t => (Except.ok t, s)) hread

end Run

namespace Guarded

open Run

/-- A check of conditions formats its message when it has to, and only then. -/
structure IsFormattedCheck (check : Checker) (template : Obj) (arguments : List Obj)
    (s : Session) : Prop where
  /-- A condition that holds leaves the session as it is. -/
  run_true : (require check (.bool true) template arguments).run s = (.ok (), s)
  /-- A condition that does not hold leaves the session as formatting leaves it, and rejects
  with the text that formatting gives. -/
  run_false_of_ok : ∀ text t, (format .null (.object template) arguments).run s = (.ok text, t) →
    ∃ f, (require check (.bool false) template arguments).run s = (.error (.fault f), t) ∧
      f.class? = some .argumentError ∧ f.message = text ∧
      ∀ u e, u.store.IsMadeFrom e f → (textOf e).run u = (.ok text, u)
  /-- What formatting raises is raised, in the session in which formatting raises it. -/
  run_false_of_error : ∀ r t,
    (format .null (.object template) arguments).run s = (.error r, t) →
      (require check (.bool false) template arguments).run s = (.error r, t)

section

variable {check : Checker} {template : Obj} {s : Session} (hcheck : check.IsSound)

include hcheck

/-- A text, whatever its class says about itself, or nothing is accepted as a template. -/
theorem run_argument_template (h : template = .null ∨ s.store.isA template .text = true) :
    (check.argument .textOrNull template).run s = (.ok (), s) := by
  refine hcheck.argument_of_isMetBy (.inl rfl) ?_
  rcases h with rfl | htext
  · rfl
  · change (s.store.isA template .text || _) = true
    rw [htext, Bool.true_or]

/-- Once its arguments are accepted, the check comes to the truth of the condition. -/
theorem run_require_bool (h : template = .null ∨ s.store.isA template .text = true) (b : Bool)
    (arguments : List Obj) : (require check (.bool b) template arguments).run s =
      (Run.require b (.object template) arguments).run s := by
  rw [require, run_bind_of_ok (hcheck.run_boolean b s),
    run_bind_of_ok (run_argument_template hcheck h), run_bind_of_ok (run_truthOf_bool b s)]

/-- Whatever the template and the arguments are, the check formats its message when it has to,
and only then. -/
theorem isFormattedCheck (h : template = .null ∨ s.store.isA template .text = true)
    (arguments : List Obj) : IsFormattedCheck check template arguments s where
  run_true := (run_require_bool hcheck h true arguments).trans (run_require_true _ _)
  run_false_of_ok := by
    intro text t hformat
    refine ⟨.rejected text, ?_, rfl, rfl, fun u e he => run_textOf_of_isMadeFrom he rfl⟩
    exact (run_require_bool hcheck h false arguments).trans (run_bind_of_ok hformat)
  run_false_of_error := by
    intro r t hformat
    exact (run_require_bool hcheck h false arguments).trans (run_bind_of_error hformat)

end

/-- A session with a template and an instance of a class whose text can be asked for once. The
next time an interruption is thrown. -/
def impatientSession : Session :=
  { Session.start Session.defaultIdentity with
    store := ⟨#[
      ⟨.known .text, .text (.ofString "%s!")⟩,
      ⟨.known .text, .text (.ofString "fine")⟩,
      ⟨.known .keyboardInterrupt, .exception [] .none⟩,
      ⟨.known .type, .cls { plainClass (.ofString "Once") [.known .object] with
        text? := some ⟨.gives (.cell 1), [.throws (.cell 2)]⟩ }⟩,
      ⟨.cell 3, .bare⟩]⟩ }

/-- Asked for once, the text of the instance is in the message. Asked for twice, the
interruption leaves the check. Neither happens if the condition holds. -/
theorem isFormattedCheck_impatient :
    (∃ f t, (require .strict (.bool false) (.cell 0) [.cell 4]).run impatientSession =
        (.error (.fault f), t) ∧ f.message = .ofString "fine!" ∧
        t.calls = [⟨.cell 3, .text⟩]) ∧
      (∃ t, (require .strict (.bool false) (.cell 0) [.cell 4, .cell 4]).run impatientSession =
        (.error (.thrown (.cell 2)), t) ∧ t.calls = [⟨.cell 3, .text⟩, ⟨.cell 3, .text⟩]) ∧
      (require .strict (.bool true) (.cell 0) [.cell 4, .cell 4]).run impatientSession =
        (.ok (), impatientSession) := by
  have hone : IsFormattedCheck .strict (.cell 0) [.cell 4] impatientSession :=
    isFormattedCheck Checker.isSound_strict (.inr rfl) [.cell 4]
  have htwo : IsFormattedCheck .strict (.cell 0) [.cell 4, .cell 4] impatientSession :=
    isFormattedCheck Checker.isSound_strict (.inr rfl) [.cell 4, .cell 4]
  obtain ⟨f, hrun, -, hmessage, -⟩ := hone.run_false_of_ok (.ofString "fine!") _ rfl
  exact ⟨⟨f, _, hrun, hmessage, rfl⟩, ⟨_, htwo.run_false_of_error _ _ rfl, rfl⟩, htwo.run_true⟩

end Guarded

end LenientText
