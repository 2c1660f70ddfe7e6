import LenientText.Object.Truth
import LenientText.Proofs.Object.Reference

/-!
# What two stores have in common

An overlap of two stores is a set of known objects. Each of them is the same object in both,
and it refers to known objects only. Whatever is looked up for a known object is then the same
in both stores: its class and content, the ancestors of a class, the nearest script of a kind,
a module or a name. What is found is known too.
-/

namespace LenientText

/-- Known objects, which are the same in two stores. -/
structure Overlap where
  /-- The one store. -/
  store : Store
  /-- The other store. -/
  otherStore : Store
  /-- An object is known. -/
  known : Obj → Prop
  /-- What stands for nothing is known. -/
  known_null : known .null
  /-- Classes that exist from the start are known. -/
  known_known : ∀ k, known (.known k)
  /-- A known object is the same in both stores. -/
  entity_eq : ∀ {o}, known o → otherStore.entity o = store.entity o
  /-- A known object refers to known objects. -/
  known_of_mem : ∀ {o p}, known o → p ∈ (store.entity o).references → known p

/-- A search finds the same with two functions that are equal on the list. -/
theorem findSome?_congr {α β : Type} {f g : α → Option β} {xs : List α}
    (h : ∀ x ∈ xs, f x = g x) : xs.findSome? f = xs.findSome? g := by
  induction xs with
  | nil => rfl
  | cons x xs ih =>
    rw [List.findSome?_cons, List.findSome?_cons, h x List.mem_cons_self,
      ih fun y hy => h y (List.mem_cons_of_mem x hy)]

namespace Overlap

/-- A store has all its objects in common with itself. -/
def whole (s : Store) : Overlap where
  store := s
  otherStore := s
  known := fun _ => True
  known_null := trivial
  known_known := fun _ => trivial
  entity_eq := fun _ => rfl
  known_of_mem := fun _ _ => trivial

/-- A closed store has the objects that it holds in common with every store that continues
it. -/
def ofContinued {s t : Store} (hclosed : s.IsClosed) (h : s.IsContinuedBy t) : Overlap where
  store := s
  otherStore := t
  known := s.Holds
  known_null := trivial
  known_known := fun _ => trivial
  entity_eq := fun ho => h _ ho
  known_of_mem := hclosed.holds_of_mem

/-- What was raised is known, or is a fault. -/
def KnowsRaised (v : Overlap) : Raised → Prop
  | .thrown e => v.known e
  | .fault _ => True

/-- A plain text, or a known object in its place. -/
def KnowsEither (v : Overlap) : TextOrObj → Prop
  | .text _ => True
  | .object o => v.known o

variable {v : Overlap} {o cls d : Obj}

/-- A known object has the same content in both stores. -/
theorem content_eq (h : v.known o) : v.otherStore.content o = v.store.content o :=
  congrArg Entity.content (v.entity_eq h)

/-- A known object has the same class in both stores. -/
theorem typeOf_eq (h : v.known o) : v.otherStore.typeOf o = v.store.typeOf o :=
  congrArg Entity.type (v.entity_eq h)

/-- The class of a known object is known. -/
theorem known_typeOf (h : v.known o) : v.known (v.store.typeOf o) :=
  v.known_of_mem h List.mem_cons_self

/-- What the content of a known object refers to is known. -/
theorem known_of_mem_content (h : v.known o) (hd : d ∈ (v.store.content o).references) :
    v.known d :=
  v.known_of_mem h (List.mem_cons_of_mem _ hd)

/-- A known class is made up of the same in both stores. -/
theorem classInfo?_eq (h : v.known o) : v.otherStore.classInfo? o = v.store.classInfo? o := by
  unfold Store.classInfo?
  rw [content_eq h]

/-- What makes up a known class refers to known objects. -/
theorem known_of_classInfo? {info : ClassInfo} (h : v.known o)
    (hinfo : v.store.classInfo? o = some info) (hd : d ∈ info.references) : v.known d := by
  have hcontent : v.store.content o = .cls info := by
    unfold Store.classInfo? at hinfo
    split at hinfo
    · next i hi => rw [hi, Option.some.inj hinfo]
    · cases hinfo
  refine known_of_mem_content h ?_
  rw [hcontent]
  exact hd

/-- A known class has the same ancestors in both stores. -/
theorem lineage_eq (h : v.known cls) : v.otherStore.lineage cls = v.store.lineage cls := by
  cases cls with
  | known k => rfl
  | null | bool | logger | cell =>
    unfold Store.lineage
    dsimp only
    rw [classInfo?_eq h]

/-- The ancestors of a known class are known. -/
theorem known_of_mem_lineage (h : v.known cls) (hd : d ∈ v.store.lineage cls) : v.known d := by
  cases cls with
  | known k =>
    obtain ⟨k', -, rfl⟩ := List.mem_map.mp hd
    exact v.known_known k'
  | null | bool | logger | cell =>
    unfold Store.lineage at hd
    dsimp only at hd
    split at hd
    · next info hinfo =>
      rcases List.mem_cons.mp hd with rfl | hd
      · exact h
      · refine known_of_classInfo? h hinfo ?_
        simp only [ClassInfo.references, List.mem_append, hd, or_true, true_or]
    · exact List.mem_singleton.mp hd ▸ h

/-- What is looked for among the ancestors of a known class is found in the same place on both
sides. -/
theorem findSome?_lineage_eq {α : Type} {f g : Obj → Option α} (h : v.known cls)
    (hfg : ∀ d, v.known d → f d = g d) :
    (v.otherStore.lineage cls).findSome? f = (v.store.lineage cls).findSome? g := by
  rw [lineage_eq h]
  exact findSome?_congr fun d hd => hfg d (known_of_mem_lineage h hd)

/-- The descent of a known class is the same in both stores. -/
theorem derivesFrom_eq (h : v.known cls) (k : KnownClass) :
    v.otherStore.derivesFrom cls k = v.store.derivesFrom cls k := by
  rw [Store.derivesFrom, Store.derivesFrom, lineage_eq h]

/-- A known object has the same known classes in both stores. -/
theorem isA_eq (h : v.known o) (k : KnownClass) : v.otherStore.isA o k = v.store.isA o k := by
  rw [Store.isA, Store.isA, typeOf_eq h, derivesFrom_eq (known_typeOf h)]

/-- A known object holds the same text in both stores. -/
theorem text?_eq (h : v.known o) : v.otherStore.text? o = v.store.text? o := by
  unfold Store.text?
  rw [content_eq h]

/-- A known text reads the same in both stores. -/
theorem plain_eq {r : TextOrObj} (h : v.KnowsEither r) :
    v.otherStore.plain r = v.store.plain r := by
  cases r with
  | text t => rfl
  | object o => rw [Store.plain, Store.plain, text?_eq h]

/-- A known class has the same name in both stores. -/
theorem className_eq (h : v.known cls) : v.otherStore.className cls = v.store.className cls := by
  unfold Store.className
  rw [classInfo?_eq h]

/-- The class of a known object has the same name in both stores. -/
theorem typeName_eq (h : v.known o) : v.otherStore.typeName o = v.store.typeName o := by
  rw [Store.typeName, Store.typeName, typeOf_eq h, className_eq (known_typeOf h)]

/-- What was raised has the same class in both stores, which is known. -/
theorem raisedType_eq {e : Raised} (h : v.KnowsRaised e) :
    e.type v.otherStore = e.type v.store ∧ v.known (e.type v.store) := by
  cases e with
  | thrown o => exact ⟨typeOf_eq h, known_typeOf h⟩
  | fault f => exact ⟨rfl, v.known_known _⟩

/-- What was raised has the same known classes in both stores. -/
theorem raisedIsA_eq {e : Raised} (h : v.KnowsRaised e) (k : KnownClass) :
    e.isA v.otherStore k = e.isA v.store k := by
  obtain ⟨htype, hknown⟩ := raisedType_eq h
  rw [Raised.isA, Raised.isA, htype, derivesFrom_eq hknown]

/-- What the nearest class brings along is the same in both stores for a known class. -/
theorem nearest_eq {α : Type} (f : ClassInfo → Option α) (h : v.known cls) :
    ((v.otherStore.lineage cls).findSome? fun d =>
      ((v.otherStore.classInfo? d).bind f).map fun a => (d, a)) =
    (v.store.lineage cls).findSome? fun d =>
      ((v.store.classInfo? d).bind f).map fun a => (d, a) :=
  findSome?_lineage_eq h fun d hd => by rw [classInfo?_eq hd]

/-- What the nearest class brings along is found in the description of a class, and leads to
known objects if the class is known. -/
theorem exists_of_nearest {α : Type} {f : ClassInfo → Option α} (h : v.known cls) {owner : Obj}
    {a : α} (hfound : (v.store.lineage cls).findSome? (fun d =>
      ((v.store.classInfo? d).bind f).map fun a => (d, a)) = some (owner, a)) :
    ∃ info, f info = some a ∧ ∀ o ∈ info.references, v.known o := by
  obtain ⟨d, hd, ha⟩ := List.exists_of_findSome?_eq_some hfound
  obtain ⟨a', hbind, he⟩ := Option.map_eq_some_iff.mp ha
  cases he
  obtain ⟨info, hinfo, hof⟩ := Option.bind_eq_some_iff.mp hbind
  exact ⟨info, hof, fun o ho => known_of_classInfo? (known_of_mem_lineage h hd) hinfo ho⟩

/-- The nearest script of a kind gives and throws known objects if the class is known. -/
theorem known_of_nearestScript (scriptOf : ClassInfo → Option Script)
    (hmem : ∀ info script, scriptOf info = some script → script ∈ info.scripts)
    (h : v.known cls) {owner : Obj} {script : Script}
    (hfound : (v.store.lineage cls).findSome? (fun d =>
      ((v.store.classInfo? d).bind scriptOf).map fun script => (d, script)) =
        some (owner, script)) : ∀ o ∈ script.references, v.known o := by
  obtain ⟨info, hof, hknown⟩ := exists_of_nearest h hfound
  intro o ho
  refine hknown o ?_
  have hscripts : o ∈ info.scripts.flatMap Script.references :=
    List.mem_flatMap.mpr ⟨script, hmem info script hof, ho⟩
  simp only [ClassInfo.references, List.mem_append, hscripts, or_true, true_or]

/-- A known class has the same script for the text in both stores. -/
theorem textHook?_eq (h : v.known cls) : v.otherStore.textHook? cls = v.store.textHook? cls :=
  nearest_eq (·.text?) h

/-- A known class has the same script for the display form in both stores. -/
theorem displayHook?_eq (h : v.known cls) :
    v.otherStore.displayHook? cls = v.store.displayHook? cls :=
  nearest_eq (·.display?) h

/-- A known class has the same scripts for reading attributes in both stores. -/
theorem attributeHook?_eq (h : v.known cls) (a : Attribute) :
    v.otherStore.attributeHook? cls a = v.store.attributeHook? cls a :=
  nearest_eq (·.attributes.lookup a) h

/-- The script for the text gives and throws known objects. -/
theorem known_of_textHook? {owner : Obj} {script : Script} (h : v.known cls)
    (hook : v.store.textHook? cls = some (owner, script)) :
    ∀ o ∈ script.references, v.known o := by
  refine known_of_nearestScript (·.text?) (fun info script hscript => ?_) h hook
  simp only [ClassInfo.scripts, List.mem_append, Option.mem_toList, hscript, true_or]

/-- The script for the display form gives and throws known objects. -/
theorem known_of_displayHook? {owner : Obj} {script : Script} (h : v.known cls)
    (hook : v.store.displayHook? cls = some (owner, script)) :
    ∀ o ∈ script.references, v.known o := by
  refine known_of_nearestScript (·.display?) (fun info script hscript => ?_) h hook
  simp only [ClassInfo.scripts, List.mem_append, Option.mem_toList, hscript, true_or, or_true]

/-- The scripts for reading attributes give and throw known objects. -/
theorem known_of_attributeHook? {a : Attribute} {owner : Obj} {script : Script}
    (h : v.known cls) (hook : v.store.attributeHook? cls a = some (owner, script)) :
    ∀ o ∈ script.references, v.known o := by
  refine known_of_nearestScript (·.attributes.lookup a)
    (fun info script hscript => ?_) h hook
  obtain ⟨before, after, hattributes, -⟩ := List.lookup_eq_some_iff.mp hscript
  have hpair : (a, script) ∈ info.attributes := by
    rw [hattributes]
    exact List.mem_append_right before List.mem_cons_self
  have hmem : script ∈ info.attributes.map (·.2) := List.mem_map_of_mem hpair
  simp only [ClassInfo.scripts, List.mem_append, hmem, or_true]

/-- A known object is a class in both stores or on neither. -/
theorem isClass_eq (h : v.known o) : v.otherStore.isClass o = v.store.isClass o := isA_eq h .type

/-- A known object holds the same integer in both stores. -/
theorem integer?_eq (h : v.known o) : v.otherStore.integer? o = v.store.integer? o := by
  unfold Store.integer?
  rw [content_eq h]

/-- A known object has the same members in both stores. -/
theorem members_eq (h : v.known o) : v.otherStore.members o = v.store.members o := by
  unfold Store.members
  rw [content_eq h]

/-- A known object holds the same bytes in both stores. -/
theorem bytes_eq (h : v.known o) : v.otherStore.bytes o = v.store.bytes o := by
  unfold Store.bytes
  rw [content_eq h]

/-- A known object counts as true by what it holds in both stores or in neither. -/
theorem isTrue_eq (h : v.known o) : v.otherStore.isTrue o = v.store.isTrue o := by
  unfold Store.isTrue
  rw [content_eq h]

/-- A known class has the same methods in both stores. -/
theorem method?_eq (h : v.known cls) (m : Method) :
    v.otherStore.method? cls m = v.store.method? cls m :=
  nearest_eq (·.methods.lookup m) h

/-- A method of a known class gives and throws known objects. -/
theorem known_of_method? {m : Method} {owner : Obj} {behaviour : Behaviour} (h : v.known cls)
    (hm : v.store.method? cls m = some (owner, behaviour)) : v.known behaviour.object := by
  obtain ⟨info, hof, hknown⟩ := exists_of_nearest h hm
  obtain ⟨before, after, hmethods, -⟩ := List.lookup_eq_some_iff.mp hof
  have hpair : (m, behaviour) ∈ info.methods := by
    rw [hmethods]
    exact List.mem_append_right before List.mem_cons_self
  have hmem : behaviour.object ∈ info.methods.map (·.2.object) := List.mem_map_of_mem hpair
  refine hknown _ ?_
  simp only [ClassInfo.references, List.mem_append, hmem, or_true]

/-- A known class has the same qualified name in both stores. -/
theorem classQualifiedName_eq (h : v.known cls) :
    v.otherStore.classQualifiedName cls = v.store.classQualifiedName cls := by
  unfold Store.classQualifiedName
  rw [classInfo?_eq h, className_eq h]

/-- A known class has the same module in both stores. -/
theorem ownModule?_eq (h : v.known cls) :
    v.otherStore.ownModule? cls = v.store.ownModule? cls := by
  unfold Store.ownModule?
  rw [classInfo?_eq h]

/-- The module of a known class is known. -/
theorem knows_of_ownModule? {r : TextOrObj} (h : v.known cls)
    (hr : v.store.ownModule? cls = some r) : v.KnowsEither r := by
  unfold Store.ownModule? at hr
  split at hr
  · cases hr
    trivial
  · obtain ⟨m, hm, rfl⟩ := Option.map_eq_some_iff.mp hr
    obtain ⟨info, hinfo, hmodule⟩ := Option.bind_eq_some_iff.mp hm
    refine known_of_classInfo? h hinfo ?_
    have hmem : m ∈ info.module?.toList := Option.mem_toList.mpr hmodule
    simp only [ClassInfo.references, List.mem_append, hmem, true_or]

/-- A known class hands down the same module in both stores. -/
theorem handedDown?_eq (h : v.known cls) :
    v.otherStore.handedDown? cls = v.store.handedDown? cls := by
  unfold Store.handedDown?
  rw [ownModule?_eq h]

/-- The module that a known class hands down is known. -/
theorem knows_of_handedDown? {r : TextOrObj} (h : v.known cls)
    (hr : v.store.handedDown? cls = some r) : v.KnowsEither r := by
  unfold Store.handedDown? at hr
  split at hr
  · split at hr
    · cases hr
      trivial
    · cases hr
  · exact knows_of_ownModule? h hr

/-- The module that the lineage of a known class hands down is the same in both stores. -/
theorem nearestModule?_eq (h : v.known cls) :
    v.otherStore.nearestModule? (v.otherStore.lineage cls) =
      v.store.nearestModule? (v.store.lineage cls) :=
  findSome?_lineage_eq h fun _ hd => handedDown?_eq hd

/-- The module that the lineage of a known class hands down is known. -/
theorem knows_of_nearestModule? {r : TextOrObj} (h : v.known cls)
    (hr : v.store.nearestModule? (v.store.lineage cls) = some r) : v.KnowsEither r := by
  obtain ⟨d, hd, hdown⟩ := List.exists_of_findSome?_eq_some hr
  exact knows_of_handedDown? (known_of_mem_lineage h hd) hdown

/-- A known module is barred in both stores or on neither. -/
theorem isBarred_eq {r : TextOrObj} (h : v.KnowsEither r) :
    v.otherStore.isBarred r = v.store.isBarred r := by
  cases r with
  | text t => rfl
  | object o => exact isA_eq h .property

/-- Instances of a known class see the same module in both stores. -/
theorem moduleOfInstance?_eq (h : v.known cls) :
    v.otherStore.moduleOfInstance? cls = v.store.moduleOfInstance? cls := by
  unfold Store.moduleOfInstance?
  rw [nearestModule?_eq h]
  cases hm : v.store.nearestModule? (v.store.lineage cls) with
  | none => rfl
  | some m =>
    rw [Option.filter_some, Option.filter_some, isBarred_eq (knows_of_nearestModule? h hm)]

/-- A known class shows the same module in both stores. -/
theorem moduleOfClass?_eq (h : v.known cls) :
    v.otherStore.moduleOfClass? cls = v.store.moduleOfClass? cls := by
  have htype := known_typeOf h
  unfold Store.moduleOfClass?
  rw [typeOf_eq h, nearestModule?_eq htype, nearestModule?_eq h, ownModule?_eq h]
  cases hm : v.store.nearestModule? (v.store.lineage (v.store.typeOf cls)) with
  | none => rfl
  | some m =>
    dsimp only
    rw [isBarred_eq (knows_of_nearestModule? htype hm)]

/-- The plain reading of a known object is the same in both stores. -/
theorem plainReading?_eq (h : v.known o) (a : Attribute) :
    v.otherStore.plainReading? o a = v.store.plainReading? o a := by
  have htype := known_typeOf h
  cases a with
  | ownClass => rw [Store.plainReading?, Store.plainReading?, typeOf_eq h]
  | module =>
    rw [Store.plainReading?, Store.plainReading?, isClass_eq h, moduleOfClass?_eq h, typeOf_eq h,
      moduleOfInstance?_eq htype]
  | name => rw [Store.plainReading?, Store.plainReading?, isClass_eq h, className_eq h]
  | qualifiedName =>
    rw [Store.plainReading?, Store.plainReading?, isClass_eq h, classQualifiedName_eq h]

/-- What the plain reading of a known object gives is known. -/
theorem knows_of_plainReading? {a : Attribute} {r : TextOrObj} (h : v.known o)
    (hr : v.store.plainReading? o a = some r) : v.KnowsEither r := by
  have htype := known_typeOf h
  cases a with
  | ownClass =>
    cases hr
    exact htype
  | module =>
    rw [Store.plainReading?] at hr
    split at hr
    · unfold Store.moduleOfClass? at hr
      split at hr
      · next m hm =>
        split at hr
        · cases hr
        · obtain rfl := Option.some.inj hr
          cases hn : v.store.nearestModule? (v.store.lineage o) with
          | none => exact knows_of_nearestModule? htype hm
          | some n => exact knows_of_nearestModule? h hn
      · exact knows_of_ownModule? h hr
    · exact knows_of_nearestModule? htype (Option.filter_eq_some_iff.mp hr).1
  | name | qualifiedName =>
    rw [Store.plainReading?] at hr
    split at hr
    · cases hr
      trivial
    · cases hr

/-- A known object lacks an attribute with the same fault in both stores. -/
theorem noAttribute_eq (h : v.known o) (spelling : Text) :
    v.otherStore.noAttribute o spelling = v.store.noAttribute o spelling := by
  rw [Store.noAttribute, Store.noAttribute, isClass_eq h, className_eq h, typeName_eq h]

/-- There is the same to say about a known exception in both stores, if what it holds is
known. -/
theorem saying_eq {arguments : List Obj} (ho : v.known o) (h : ∀ a ∈ arguments, v.known a)
    (detail : Detail) :
    v.otherStore.saying o arguments detail = v.store.saying o arguments detail := by
  unfold Store.saying Store.sayingOfPart
  simp only [isA_eq ho]
  split
  · rfl
  split
  · rfl
  split
  · rfl
  split
  · split
    · next coding t first last reason =>
      rw [integer?_eq (h first (by simp)), integer?_eq (h last (by simp)), text?_eq (h t (by simp))]
    · rfl
  split
  · split
    · next coding bs first last reason =>
      rw [integer?_eq (h first (by simp)), integer?_eq (h last (by simp)),
        bytes_eq (h bs (by simp))]
    · rfl
  split
  · split
    · next t first last reason =>
      rw [integer?_eq (h first (by simp)), integer?_eq (h last (by simp)), text?_eq (h t (by simp))]
    · rfl
  split
  · split
    · next message members => rw [members_eq (h members (by simp))]
    · rfl
  · rfl

/-- A known class is shown under the same name in both stores. -/
theorem shownName_eq (h : v.known cls) : v.otherStore.shownName cls = v.store.shownName cls := by
  unfold Store.shownName
  rw [ownModule?_eq h, className_eq h, classQualifiedName_eq h]
  cases hr : v.store.ownModule? cls with
  | none => rfl
  | some r =>
    cases r with
    | text m => rfl
    | object m =>
      dsimp only
      rw [text?_eq (knows_of_ownModule? h hr)]

/-- A known class is displayed in the same way in both stores. -/
theorem classDisplay_eq (h : v.known cls) :
    v.otherStore.classDisplay cls = v.store.classDisplay cls := by
  rw [Store.classDisplay, Store.classDisplay, shownName_eq h]

end Overlap

end LenientText
