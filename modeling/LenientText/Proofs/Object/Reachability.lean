import LenientText.Proofs.Object.Listing
import LenientText.Proofs.Object.Overlap
import Mathlib.Logic.Relation

/-!
# What is reached from objects

One object reaches another if a chain of references leads from the one to the other: through
classes and ancestors, through contents, and through what the scripts of classes give or throw.
What is reached from some roots, together with what exists from the start, is closed under
references, so it may serve as what is known of a store. Listing an object of this kind yields
only such objects again and new texts and integers. No exceptions come into being by that.
-/

namespace LenientText

/-- A text or an integer, as listing makes them. -/
def Entity.IsItem (e : Entity) : Prop :=
  (∃ t, e = ⟨.known .text, .text t⟩) ∨ ∃ n, e = ⟨.known .integer, .integer n⟩

namespace Store

/-- An object refers to another one. -/
def RefersTo (s : Store) (o p : Obj) : Prop := p ∈ (s.entity o).references

/-- A chain of references leads from one object to another. -/
def Reaches (s : Store) : Obj → Obj → Prop := Relation.ReflTransGen s.RefersTo

/-- Nothing, and the classes that exist from the start. -/
def IsBasic (o : Obj) : Prop := o = .null ∨ ∃ k, o = .known k

variable {s : Store} {o p : Obj}

/-- What exists from the start refers to classes that exist from the start. -/
theorem isBasic_of_refersTo (ho : IsBasic o) (h : s.RefersTo o p) : IsBasic p := by
  rcases ho with rfl | ⟨k, rfl⟩
  · exact .inr ⟨_, List.mem_singleton.mp h⟩
  · exact .inr ⟨_, List.mem_singleton.mp h⟩

/-- What holds of everything that the objects in cells refer to holds of what they reach. -/
theorem of_reaches {P : Obj → Prop} (hknown : ∀ k, P (.known k))
    (hcells : ∀ e ∈ s.entities.toList, ∀ p ∈ e.references, P p) (ho : P o)
    (h : s.Reaches o p) : P p := by
  have hstep : ∀ {q d}, s.RefersTo q d → P d := by
    intro q d hd
    cases q with
    | null | bool | known | logger => exact List.mem_singleton.mp hd ▸ hknown _
    | cell i =>
      have hcell : d ∈ (s.entities[i]?.getD ⟨.known .object, .bare⟩).references := hd
      cases he : s.entities[i]? with
      | none =>
        rw [he] at hcell
        exact List.mem_singleton.mp hcell ▸ hknown _
      | some e =>
        rw [he, Option.getD_some] at hcell
        exact hcells e (Array.mem_toList_iff.mpr (Array.mem_of_getElem? he)) d hcell
  cases h with
  | refl => exact ho
  | tail _ hlast => exact hstep hlast

/-- Behind new cells a store is as it was. -/
theorem entity_extend_of_not_mem {es : List Entity} (ho : o ∉ s.newCells es.length) :
    (s.extend es).entity o = s.entity o := by
  cases o with
  | null | bool | known | logger => rfl
  | cell i =>
    rw [entity, entity, extend]
    by_cases hi : i < s.entities.size
    · rw [Array.getElem?_append_left hi]
    · have hbehind : s.entities.size + es.length ≤ i := by
        refine Nat.le_of_not_lt fun hlt => ho ?_
        refine List.mem_map.mpr ⟨i - s.entities.size, List.mem_range.mpr (by omega), ?_⟩
        rw [Nat.add_sub_cancel' (Nat.le_of_not_lt hi)]
      have hsize : (s.entities ++ es.toArray).size ≤ i := by
        rw [Array.size_append, List.size_toArray]
        exact hbehind
      rw [Array.getElem?_eq_none hsize, Array.getElem?_eq_none (Nat.le_of_not_lt hi)]

/-- A new cell holds one of the new objects. -/
theorem entity_extend_mem {es : List Entity} (ho : o ∈ s.newCells es.length) :
    (s.extend es).entity o ∈ es := by
  have hmeant : (s.newCells es.length).map (s.extend es).entity = es :=
    s.areMeantBy_references (.fresh es)
  have hmem := List.mem_map_of_mem (f := (s.extend es).entity) ho
  rwa [hmeant] at hmem

/-- Where new cells will be there is nothing yet. -/
theorem entity_of_mem_newCells {n : Nat} (ho : o ∈ s.newCells n) :
    s.entity o = ⟨.known .object, .bare⟩ := by
  obtain ⟨i, -, rfl⟩ := List.mem_map.mp ho
  rw [entity, Array.getElem?_eq_none (Nat.le_add_right _ _), Option.getD_none]

section

variable {es : List Entity} (hes : ∀ e ∈ es, e.IsItem)

include hes

/-- Items refer to nothing but known classes. -/
theorem isBasic_of_isItem {e : Entity} (he : e ∈ es) : ∀ p ∈ e.references, IsBasic p := by
  intro p hp
  rcases hes e he with ⟨t, rfl⟩ | ⟨n, rfl⟩ <;>
    exact .inr ⟨_, List.mem_singleton.mp hp⟩

/-- New items are no classes, so what makes up a class stays the same. -/
theorem classInfo?_extend (o : Obj) : (s.extend es).classInfo? o = s.classInfo? o := by
  unfold classInfo? content
  by_cases ho : o ∈ s.newCells es.length
  · rw [entity_of_mem_newCells ho]
    rcases hes _ (entity_extend_mem ho) with ⟨t, ht⟩ | ⟨n, hn⟩
    · rw [ht]
    · rw [hn]
  · rw [entity_extend_of_not_mem ho]

/-- The descent of a class stays the same. -/
theorem derivesFrom_extend (cls : Obj) (k : KnownClass) :
    (s.extend es).derivesFrom cls k = s.derivesFrom cls k := by
  unfold derivesFrom lineage
  rw [classInfo?_extend hes]

/-- The methods of a class stay the same. -/
theorem method?_extend (cls : Obj) (m : Method) :
    (s.extend es).method? cls m = s.method? cls m := by
  unfold method? lineage
  simp only [classInfo?_extend hes]

/-- What is an exception once items have been made was one before. -/
theorem isA_exception_of_extend (h : (s.extend es).isA o .exception = true) :
    s.isA o .exception = true := by
  rw [isA, derivesFrom_extend hes] at h
  by_cases ho : o ∈ s.newCells es.length
  · rw [typeOf] at h
    rcases hes _ (entity_extend_mem ho) with ⟨t, ht⟩ | ⟨n, hn⟩
    · rw [ht] at h
      cases h
    · rw [hn] at h
      cases h
  · rw [typeOf, entity_extend_of_not_mem ho] at h
    exact h

end

end Store

namespace Overlap

/-- What is reached from some roots is known, together with what exists from the start. -/
def reached (s : Store) (roots : Obj → Prop) : Overlap where
  store := s
  otherStore := s
  known o := (∃ root, roots root ∧ s.Reaches root o) ∨ Store.IsBasic o
  known_null := .inr (.inl rfl)
  known_known k := .inr (.inr ⟨k, rfl⟩)
  entity_eq _ := rfl
  known_of_mem := by
    rintro o p (⟨root, hroot, ho⟩ | ho) hp
    · exact .inl ⟨root, hroot, ho.tail hp⟩
    · exact .inr (Store.isBasic_of_refersTo ho hp)

/-- New items are known besides. -/
def reachedOrNew (s : Store) (roots : Obj → Prop) {es : List Entity}
    (hes : ∀ e ∈ es, e.IsItem) : Overlap where
  store := s.extend es
  otherStore := s.extend es
  known o := (reached s roots).known o ∨ o ∈ s.newCells es.length
  known_null := .inl (reached s roots).known_null
  known_known k := .inl ((reached s roots).known_known k)
  entity_eq _ := rfl
  known_of_mem := by
    intro o p ho hp
    by_cases hnew : o ∈ s.newCells es.length
    · exact .inl (.inr (Store.isBasic_of_isItem hes (Store.entity_extend_mem hnew) p hp))
    · rw [Store.entity_extend_of_not_mem hnew] at hp
      exact .inl ((reached s roots).known_of_mem (ho.resolve_right hnew) hp)

variable {v : Overlap} {s : Store} {roots : Obj → Prop} {o cls owner : Obj} {it : Iteration}

/-- What the script for listing the instances of a known class yields or throws is known. -/
theorem known_of_itemsHook? (h : v.known cls) (hook : v.store.itemsHook? cls = some (owner, it)) :
    ∀ o ∈ it.references, v.known o := by
  obtain ⟨info, hitems, hknown⟩ := exists_of_nearest h hook
  intro o ho
  refine hknown o ?_
  have hmem : o ∈ info.items?.toList.flatMap Iteration.references :=
    List.mem_flatMap.mpr ⟨it, Option.mem_toList.mpr hitems, ho⟩
  simp only [ClassInfo.references, List.mem_append, hmem, or_true, true_or]

end Overlap

/-- Items that are there are known, and new ones are texts and integers. -/
def Items.AreKnown (v : Overlap) : Items → Prop
  | .present items => ∀ o ∈ items, v.known o
  | .fresh es => ∀ e ∈ es, e.IsItem

namespace Overlap

variable {v : Overlap} {s : Store} {roots : Obj → Prop} {o : Obj} {items : Items}

/-- What a known object yields is known, or new. -/
theorem areKnown_of_yielded {capacity : Nat} (ho : v.known o)
    (h : v.store.yielded capacity o = .ok items) : items.AreKnown v := by
  have hcontent : ∀ {p}, p ∈ (v.store.content o).references → v.known p := known_of_mem_content ho
  have hnew : ∀ {α : Type} (xs : List α) (item : α → Entity), (∀ x, (item x).IsItem) →
      (Items.fresh (xs.map item)).AreKnown v := by
    intro α xs item hitem e he
    obtain ⟨x, -, rfl⟩ := List.mem_map.mp he
    exact hitem x
  unfold Store.yielded at h
  split at h
  · next owner it hook =>
    split at h
    · cases h
      exact fun p hp =>
        known_of_itemsHook? (known_typeOf ho) hook p (List.mem_append_left _ hp)
    · cases h
  · generalize v.store.content o = content at h hcontent
    cases content with
    | text t =>
      cases h
      exact hnew t _ fun _ => .inl ⟨_, rfl⟩
    | bytes bs | byteArray bs =>
      cases h
      exact hnew bs _ fun _ => .inr ⟨_, rfl⟩
    | list items | tuple items | set items =>
      cases h
      exact fun p hp => hcontent hp
    | dictionary entries =>
      cases h
      intro p hp
      obtain ⟨e, he, rfl⟩ := List.mem_map.mp hp
      exact hcontent (List.mem_flatMap.mpr ⟨e, he, List.mem_cons_self⟩)
    | range start stop step =>
      dsimp only at h
      split at h
      · cases h
      · cases h
        exact hnew _ _ fun _ => .inr ⟨_, rfl⟩
    | exhausted =>
      cases h
      exact fun p hp => absurd hp List.not_mem_nil
    | bare | integer | floating | complexZero | exception | cls =>
      obtain rfl := Run.eq_of_given h
      exact fun p hp => absurd hp List.not_mem_nil

/-- What has to be made of known items are texts and integers. -/
theorem isItem_of_areKnown (h : items.AreKnown v) : ∀ e ∈ items.made, e.IsItem := by
  cases items with
  | present items => exact fun e he => absurd he List.not_mem_nil
  | fresh es => exact h

/-- Once they have been made, all items that an object yields are known. -/
theorem known_of_mem_references (h : items.AreKnown (reached s roots))
    (ho : o ∈ items.references s) :
    (reachedOrNew s roots (isItem_of_areKnown h)).known o := by
  cases items with
  | present items => exact .inl (h o ho)
  | fresh es => exact .inr ho

end Overlap

end LenientText
