import LenientText.Guarded
import LenientText.Proofs.Check.Checker
import LenientText.Proofs.Object.Answer

/-!
# Arguments that are what they should be

An object that really is a text or an integer passes every sound check without any effect,
and what an operation asks of it after that is there. Instances of classes that descend from
these count as well, as long as no class answers for what they hold. What an operation gives
is a text if it is a plain one or a text object.
-/

namespace LenientText

namespace Store

/-- An object is an instance of the class of texts, or of one that descends from it,
and is taken for the text that it holds. -/
structure IsText (s : Store) (o : Obj) (t : Text) : Prop where
  /-- The real class says that it is a text. -/
  isA : s.isA o .text = true
  /-- The text that it holds. -/
  text?_eq : s.text? o = some t
  /-- No class answers for it. -/
  isTakenPlainly : s.IsTakenPlainly o

/-- An object is an instance of the class of integers, or of one that descends from it,
and is taken for the integer that it holds. The two truth values are such objects. -/
structure IsInteger (s : Store) (o : Obj) (n : Int) : Prop where
  /-- The real class says that it is an integer. -/
  isA : s.isA o .integer = true
  /-- The integer that it holds. -/
  content_eq : s.content o = .integer n
  /-- No class answers for it. -/
  isTakenPlainly : s.IsTakenPlainly o

/-- A result is a text, as such or as an object that holds it. -/
def Shows (s : Store) : TextOrObj → Text → Prop
  | .text u, t => u = t
  | .object o, t => s.IsText o t

variable {s : Store} {o : Obj} {t : Text} {n : Int}

/-- An instance of the class of texts is a text. -/
theorem isText_of_entity (h : s.entity o = ⟨.known .text, .text t⟩) : s.IsText o t where
  isA := by
    rw [isA, typeOf, h, derivesFrom_known]
    rfl
  text?_eq := by rw [text?, content, h]
  isTakenPlainly := isTakenPlainly_of_known (congrArg Entity.type h)

/-- An instance of the class of integers is an integer. -/
theorem isInteger_of_entity (h : s.entity o = ⟨.known .integer, .integer n⟩) :
    s.IsInteger o n where
  isA := by
    rw [isA, typeOf, h, derivesFrom_known]
    rfl
  content_eq := congrArg Entity.content h
  isTakenPlainly := isTakenPlainly_of_known (congrArg Entity.type h)

namespace IsText

/-- Nothing is no text. -/
theorem ne_null (h : s.IsText o t) : o ≠ .null := by
  intro ho
  have hnone : s.text? o = none := by rw [ho]; rfl
  have hsome := h.text?_eq
  rw [hnone] at hsome
  cases hsome

/-- The content of a text object. -/
theorem content_eq (h : s.IsText o t) : s.content o = .text t := content_of_text? h.text?_eq

/-- The plain text of a text object. -/
theorem plain_eq (h : s.IsText o t) : s.plain (.object o) = t := by
  rw [plain, h.text?_eq, Option.getD_some]

end IsText

end Store

namespace Checker.IsSound

variable {check : Checker} {s : Session} {o : Obj} {t : Text} {n : Int} (hcheck : check.IsSound)

include hcheck

/-- A text passes as a text. -/
theorem run_text_of_isText (h : s.store.IsText o t) :
    (check.argument .text o).run s = (.ok (), s) := by
  refine hcheck.argument_of_isMetBy (.inl rfl) ?_
  change (s.store.isA o .text || false) = true
  rw [h.isA, Bool.true_or]

/-- It passes as one that may be absent. -/
theorem run_textOrNull_of_isText (h : s.store.IsText o t) :
    (check.argument .textOrNull o).run s = (.ok (), s) := by
  refine hcheck.argument_of_isMetBy (.inl rfl) ?_
  change (s.store.isA o .text || (s.store.isA o .none || false)) = true
  rw [h.isA, Bool.true_or]

/-- An integer passes as an integer. -/
theorem run_integer_of_isInteger (h : s.store.IsInteger o n) :
    (check.argument .integer o).run s = (.ok (), s) := by
  refine hcheck.argument_of_isMetBy (.inl rfl) ?_
  change (s.store.isA o .integer || false) = true
  rw [h.isA, Bool.true_or]

/-- A truth value passes as one. -/
theorem run_boolean (b : Bool) (s : Session) :
    (check.argument .boolean (.bool b)).run s = (.ok (), s) :=
  hcheck.argument_of_isMetBy (.inl rfl) (by rfl)

/-- A text is delivered as it is. -/
theorem run_deliver_text_of_isText (h : s.store.IsText o t) :
    (check.deliver .text o).run s = (.ok o, s) := by
  have hresult : (check.result .text o).run s = (.ok (), s) := by
    refine hcheck.result_of_isMetBy (.inl rfl) ?_
    change (s.store.isA o .text || false) = true
    rw [h.isA, Bool.true_or]
  rw [deliver, Run.run_bind_of_ok hresult]
  rfl

end Checker.IsSound

namespace Run

variable {s : Session} {o : Obj} {t : Text} {n : Int}

/-- A text has a length. -/
theorem run_lengthOf_of_isText (h : s.store.IsText o t) :
    (lengthOf o).run s = (.ok t.length, s) :=
  run_lengthOf_of_isTakenPlainly h.isTakenPlainly (by rw [h.content_eq]; rfl)

/-- A text counts as true unless it is empty. -/
theorem run_truthOf_of_isText (h : s.store.IsText o t) :
    (truthOf o).run s = (.ok (!t.isEmpty), s) := by
  rw [run_truthOf_of_isTakenPlainly h.isTakenPlainly, Store.isTrue_of_content h.content_eq]

/-- A truth value counts as what it is. -/
theorem run_truthOf_bool (b : Bool) (s : Session) : (truthOf (.bool b)).run s = (.ok b, s) := by
  cases b <;> rfl

/-- An integer is a whole number. -/
theorem run_wholeNumberOf_of_isInteger (h : s.store.IsInteger o n)
    (mismatch : Text → Mismatch) : (wholeNumberOf o mismatch).run s = (.ok n, s) := by
  rw [wholeNumberOf, run_bind_of_ok (run_store s), h.content_eq]
  rfl

/-- An integer is in order with others as the number that it is. -/
theorem run_ordered_of_isInteger (h : s.store.IsInteger o n) (m : Method) (holds : Int → Bool)
    (mismatch : Text → Mismatch) :
    (ordered o m holds mismatch).run s = (.ok (.bool (holds n)), s) :=
  run_ordered_of_isTakenPlainly h.isTakenPlainly (by rw [h.content_eq]; rfl) m holds mismatch

/-- An integer equals itself and no other one. -/
theorem run_equalsInteger_of_isInteger (h : s.store.IsInteger o n) (k : Int) :
    (equalsInteger o k).run s = (.ok (decide (n = k)), s) := by
  rw [equalsInteger, run_equals_of_isTakenPlainly h.isTakenPlainly, h.content_eq]
  rfl

/-- What is there is not missed. -/
theorem run_requirePresent_of_ne (h : o ≠ .null) (label : TextOrObj) :
    (requirePresent o label).run s = (.ok (), s) := by
  cases o with
  | null => exact absurd rfl h
  | _ => rfl

/-- A condition that holds has no effect. -/
theorem run_require_true (template : TextOrObj) (arguments : List Obj) :
    (require true template arguments).run s = (.ok (), s) := rfl

end Run

namespace Guarded

open Run

variable {s : Session}

/-- The text of a text object is there. -/
theorem run_textOrFault_of_isText {o : Obj} {t : Text} (h : s.store.IsText o t)
    (fault : Store → Obj → Fault) : (textOrFault o fault).run s = (.ok t, s) := by
  rw [textOrFault, run_bind_of_ok (run_store s), h.text?_eq]
  rfl

/-- A text that is there is not missed. -/
theorem run_demandPresent_of_isText {o : Obj} {t : Text} (h : s.store.IsText o t)
    (label : String) : (demandPresent o label).run s = (.ok (), s) :=
  run_requirePresent_of_ne h.ne_null _

end Guarded

end LenientText
