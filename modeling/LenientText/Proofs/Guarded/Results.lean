import LenientText.Proofs.Guarded.Arguments
import LenientText.Proofs.Object.Reachability

/-!
# Results that become arguments

What an operation gives is a plain text or an object, and an object in the next operation.
Objects that are there keep their texts and integers while others are made, so that what
was known of the arguments of the first operation can be used in the next one.
-/

namespace LenientText

namespace Store

variable {s : Store} {o : Obj} {t : Text}

/-- Making one object extends a store by it. -/
theorem add_eq_extend (s : Store) (e : Entity) : (s.add e).2 = s.extend [e] := by
  rw [← extend_add, extend_nil]

/-- New objects keep those that hold anything. -/
theorem entity_extend_of_content_ne {es : List Entity} (h : s.content o ≠ .bare) :
    (s.extend es).entity o = s.entity o := by
  refine entity_extend_of_not_mem fun ho => h ?_
  rw [content, entity_of_mem_newCells ho]

/-- A single text is an item. -/
theorem isItem_of_mem_text (u : Text) :
    ∀ e ∈ [(⟨.known .text, .text u⟩ : Entity)], e.IsItem :=
  fun _ he => .inl ⟨u, List.mem_singleton.mp he⟩

/-- A text stays the text that it is when another one is made. -/
theorem IsText.add (h : s.IsText o t) (u : Text) :
    (s.add ⟨.known .text, .text u⟩).2.IsText o t := by
  have hitem := isItem_of_mem_text u
  have hentity : (s.extend [⟨.known .text, .text u⟩]).entity o = s.entity o := by
    refine entity_extend_of_content_ne ?_
    rw [h.content_eq]
    exact Content.noConfusion
  rw [add_eq_extend]
  constructor
  · rw [Store.isA, Store.typeOf, hentity, derivesFrom_extend hitem]
    exact h.isA
  · rw [Store.text?, Store.content, hentity]
    exact h.text?_eq
  · intro m
    rw [Store.typeOf, hentity, method?_extend hitem]
    exact h.isTakenPlainly m

/-- An integer stays the integer that it is when a text is made. -/
theorem IsInteger.add {n : Int} (h : s.IsInteger o n) (u : Text) :
    (s.add ⟨.known .text, .text u⟩).2.IsInteger o n := by
  have hitem := isItem_of_mem_text u
  have hentity : (s.extend [⟨.known .text, .text u⟩]).entity o = s.entity o := by
    refine entity_extend_of_content_ne ?_
    rw [h.content_eq]
    exact Content.noConfusion
  rw [add_eq_extend]
  constructor
  · rw [Store.isA, Store.typeOf, hentity, derivesFrom_extend hitem]
    exact h.isA
  · rw [Store.content, hentity]
    exact h.content_eq
  · intro m
    rw [Store.typeOf, hentity, method?_extend hitem]
    exact h.isTakenPlainly m

/-- A text that is made is one. -/
theorem isText_add (s : Store) (t : Text) :
    (s.add ⟨.known .text, .text t⟩).2.IsText (s.add ⟨.known .text, .text t⟩).1 t :=
  isText_of_entity (s.entity_add _)

end Store

namespace Run

variable {s : Session} {r : TextOrObj} {t : Text}

/-- A result as an object. A plain text is made one. -/
def asObject : TextOrObj → Run Obj
  | .text t => make .text (.text t)
  | .object o => return o

/-- The object that a result becomes holds the text that the result shows. What other
objects hold stays, and so does what memory holds. -/
theorem exists_run_asObject (h : s.store.Shows r t) :
    ∃ o u, (asObject r).run s = (.ok o, u) ∧ u.store.IsText o t ∧ u.capacity = s.capacity ∧
      (∀ p x, s.store.IsText p x → u.store.IsText p x) ∧
      ∀ p n, s.store.IsInteger p n → u.store.IsInteger p n := by
  cases r with
  | text x =>
    have hx : x = t := h
    rw [hx]
    refine ⟨(s.store.add ⟨.known .text, .text t⟩).1,
      { s with store := (s.store.add ⟨.known .text, .text t⟩).2 }, rfl, s.store.isText_add t, rfl,
      fun _ _ hp => hp.add t, fun _ _ hp => hp.add t⟩
  | object o => exact ⟨o, s, rfl, h, rfl, fun _ _ hp => hp, fun _ _ hp => hp⟩

end Run

end LenientText
