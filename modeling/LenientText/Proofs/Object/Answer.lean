import LenientText.Object.Comparison
import LenientText.Proofs.Session.Running

/-!
# Objects that no class answers for

An object is taken for what it holds if neither its class nor an ancestor of it has a method
of its own. Its length, its truth and how it compares are then read off its content, and
reading them has no effect. The classes that exist from the start have no such methods.
-/

namespace LenientText

/-- A class of its own without a module, without hooks and without methods. -/
def plainClass (name : Text) (ancestors : List Obj) : ClassInfo :=
  ⟨name, name, name, none, ancestors, none, none, none, [], []⟩

namespace Store

/-- No class answers for what an object holds. -/
def IsTakenPlainly (s : Store) (o : Obj) : Prop := ∀ m, s.method? (s.typeOf o) m = none

variable {s : Store} {o : Obj}

/-- A known class and its ancestors have no methods of their own. -/
theorem method?_known (s : Store) (k : KnownClass) (m : Method) : s.method? (.known k) m = none :=
  s.findSome?_lineage_known k fun _ => rfl

/-- An instance of a known class is taken for what it holds. -/
theorem isTakenPlainly_of_known {k : KnownClass} (h : s.typeOf o = .known k) :
    s.IsTakenPlainly o := by
  intro m
  rw [h]
  exact s.method?_known k m

end Store

namespace Run

variable {s : Session} {o : Obj} {m : Method}

/-- An object without a method is not asked. -/
theorem run_askAs_of_eq_none (hook : Hook) (h : s.store.method? (s.store.typeOf o) m = none) :
    (askAs hook o m).run s = (.ok none, s) := by
  rw [askAs, run_bind_of_ok (run_store s), h]
  rfl

section

variable (h : s.store.IsTakenPlainly o)

include h

/-- An object that is taken plainly is not asked by any method. -/
theorem run_ask_of_isTakenPlainly (m : Method) : (ask o m).run s = (.ok none, s) :=
  run_askAs_of_eq_none _ (h m)

/-- It has the length of its content. -/
theorem run_lengthOf_of_isTakenPlainly {n : Nat} (hn : (s.store.content o).length? = some n) :
    (lengthOf o).run s = (.ok n, s) := by
  rw [lengthOf, run_bind_of_ok (run_ask_of_isTakenPlainly h .length)]
  dsimp only
  rw [run_bind_of_ok (run_store s), hn]
  rfl

/-- It counts as true by its content. -/
theorem run_truthOf_of_isTakenPlainly : (truthOf o).run s = (.ok (s.store.isTrue o), s) := by
  rw [truthOf, run_bind_of_ok (run_ask_of_isTakenPlainly h .truth)]
  dsimp only
  rw [run_bind_of_ok (run_store s)]
  split
  · rfl
  · exact run_bind_of_ok (run_ask_of_isTakenPlainly h .length)

/-- It compares as the number of its content does. -/
theorem run_ordered_of_isTakenPlainly {n : Int} (hn : (s.store.content o).wholeNumber? = some n)
    (m : Method) (holds : Int → Bool) (mismatch : Text → Mismatch) :
    (ordered o m holds mismatch).run s = (.ok (.bool (holds n)), s) := by
  have hnumber : (wholeNumberOf o mismatch).run s = (.ok n, s) := by
    rw [wholeNumberOf, run_bind_of_ok (run_store s), hn]
    rfl
  rw [ordered, run_bind_of_ok (run_ask_of_isTakenPlainly h m)]
  exact run_bind_of_ok hnumber

/-- It equals what its content equals. -/
theorem run_equals_of_isTakenPlainly (own : Store → Bool) :
    (equals o own).run s = (.ok (own s.store), s) := by
  rw [equals, run_bind_of_ok (run_ask_of_isTakenPlainly h .equal)]
  rfl

end

end Run

end LenientText
