import LenientText.Object.Explanation

/-!
# What objects refer to

An object refers to its class, to the objects that it contains, and, if it is a class, to its
ancestors and to everything that its scripts give or throw. A store holds the objects in its
cells and all those of which there is only one. It is closed if whatever an object in it
refers to is held as well. A store goes on in another one if that holds the same objects in
the same cells; whatever is looked up for an object that is held is then the same in both.
-/

namespace LenientText

/-- The object that a call of a hook gives or throws. -/
def Behaviour.object : Behaviour → Obj
  | .gives o => o
  | .throws e => e

/-- The objects that calls of a hook give or throw. -/
def Script.references (script : Script) : List Obj :=
  (script.first :: script.later).map Behaviour.object

/-- What a call does is one of the things that the script does. -/
theorem Script.object_after_mem (script : Script) (calls : Nat) :
    (script.after calls).object ∈ script.references := by
  refine List.mem_map_of_mem ?_
  unfold Script.after
  split
  · next b hb => exact List.mem_of_getElem? hb
  · cases hlast : script.later.getLast? with
    | none => exact List.mem_cons_self
    | some b => exact List.mem_cons_of_mem _ (List.mem_of_getLast? hlast)

/-- The objects that listing an instance yields or throws. -/
def Iteration.references (it : Iteration) : List Obj := it.items ++ it.ending.toList

namespace ClassInfo

/-- The scripts of a class, apart from that for listing. -/
def scripts (info : ClassInfo) : List Script :=
  info.text?.toList ++ info.display?.toList ++ info.attributes.map (·.2)

/-- The objects that a class refers to. -/
def references (info : ClassInfo) : List Obj :=
  info.module?.toList ++ info.ancestors ++ info.scripts.flatMap Script.references ++
    info.items?.toList.flatMap Iteration.references ++ info.methods.map (·.2.object)

end ClassInfo

/-- The objects that a detail of an exception refers to. -/
def Detail.references : Detail → List Obj
  | .files names => names
  | .none | .place _ _ => []

section Saying

variable {arguments : List Obj} {detail : Detail} {a : Obj}

/-- What is shown of a syntax error is its message. -/
theorem mem_of_mem_objects_sayingOfSyntax
    (h : a ∈ (Store.sayingOfSyntax arguments detail).objects) : a ∈ arguments := by
  unfold Store.sayingOfSyntax at h
  split at h
  · cases h
  all_goals exact List.mem_singleton.mp h ▸ List.mem_cons_self

/-- What is shown of an error of the operating system is among its arguments or its files. -/
theorem mem_of_mem_objects_sayingOfSystem
    (h : a ∈ (Store.sayingOfSystem arguments detail).objects) :
    a ∈ arguments ++ detail.references := by
  unfold Store.sayingOfSystem at h
  split at h
  · split at h
    · cases h
    · split at h
      · next names =>
        rw [List.mem_append]
        rcases List.mem_cons.mp h with rfl | h
        · exact .inl List.mem_cons_self
        · rcases List.mem_cons.mp h with rfl | h
          · exact .inl (List.mem_cons_of_mem _ List.mem_cons_self)
          · exact .inr h
      · refine List.mem_append_left _ ?_
        rcases List.mem_cons.mp h with rfl | h
        · exact List.mem_cons_self
        · exact List.mem_singleton.mp h ▸ List.mem_cons_of_mem _ List.mem_cons_self
  · cases h

/-- What is shown of an exception is among its arguments and what it keeps besides. -/
theorem mem_of_mem_objects_saying {s : Store} {o : Obj}
    (h : a ∈ (s.saying o arguments detail).objects) : a ∈ arguments ++ detail.references := by
  have hleft : a ∈ arguments → a ∈ arguments ++ detail.references := List.mem_append_left _
  unfold Store.saying Store.sayingOfPart at h
  split at h
  · split at h
    · exact hleft h
    · cases h
  split at h
  · exact hleft (mem_of_mem_objects_sayingOfSyntax h)
  split at h
  · exact mem_of_mem_objects_sayingOfSystem h
  iterate 4
    split at h
    · split at h
      · refine hleft ?_
        simp only [Saying.objects, Option.toList_some, Option.toList_none, List.mem_cons,
          List.not_mem_nil, or_false] at h ⊢
        grind
      · cases h
  cases h

end Saying

/-- The objects that a content refers to. -/
def Content.references : Content → List Obj
  | .list items | .tuple items | .set items => items
  | .dictionary entries => entries.flatMap fun e => [e.1, e.2]
  | .exception arguments detail => arguments ++ detail.references
  | .cls info => info.references
  | _ => []

/-- The objects that an object refers to. -/
def Entity.references (e : Entity) : List Obj := e.type :: e.content.references

namespace Store

/-- A reference means an object of a store. -/
def Holds (s : Store) : Obj → Prop
  | .cell i => i < s.entities.size
  | _ => True

instance (s : Store) : DecidablePred s.Holds
  | .cell i => inferInstanceAs (Decidable (i < s.entities.size))
  | .null | .bool _ | .known _ | .logger _ => .isTrue trivial

/-- A reference means an object of a store, or a plain text stands in its place. -/
def HoldsEither (s : Store) : TextOrObj → Prop
  | .text _ => True
  | .object o => s.Holds o

/-- What the objects of a store refer to is in the store. -/
def IsClosed (s : Store) : Prop := ∀ e ∈ s.entities.toList, ∀ o ∈ e.references, s.Holds o

instance (s : Store) : Decidable s.IsClosed :=
  inferInstanceAs (Decidable (∀ e ∈ s.entities.toList, ∀ o ∈ e.references, s.Holds o))

/-- A store holds what another one holds, in the same cells. -/
def IsContinuedBy (s t : Store) : Prop := ∀ o, s.Holds o → t.entity o = s.entity o

variable {s : Store} {o p : Obj}

/-- What an object of a closed store refers to is in the store. -/
theorem IsClosed.holds_of_mem (h : s.IsClosed) (ho : s.Holds o)
    (hp : p ∈ (s.entity o).references) : s.Holds p := by
  cases o with
  | null | bool | known | logger =>
    obtain rfl := List.mem_singleton.mp hp
    trivial
  | cell i =>
    have hi : i < s.entities.size := ho
    have he : s.entity (.cell i) = s.entities[i] := by
      rw [entity, Array.getElem?_eq_getElem hi, Option.getD_some]
    rw [he] at hp
    exact h _ (Array.getElem_mem_toList hi) p hp

end Store

end LenientText
