import LenientText.Object.Listing
import LenientText.Proofs.Object.Reference
import LenientText.Proofs.Session.Settled

/-!
# What listing an object comes to

Listing depends on the objects and on the capacity only. It calls the script for listing if
there is one, asks for the size of what can be listed and for the parts of what holds no items,
and makes new objects where the items are no objects yet: code points, bytes and the integers
of a range. The new objects come behind those that are there. If listing raises something, none
have been made. What the object yields is one thing and what comes of the question for its size
another: only if both go well are there items.
-/

namespace LenientText

namespace Run

/-- Asking an object by a method in listing it is settled. -/
theorem isSettled_askAs (o : Obj) (m : Method) : IsSettled (askAs (.listing m) o m) := by
  refine isSettled_store.bind fun s => ?_
  split
  · refine IsSettled.noteCall_bind _ rfl ?_
    split
    · exact isSettled_pure _
    · exact isSettled_throw _
  · exact isSettled_pure none

/-- Reading a size off an answer is settled. -/
theorem isSettled_sizeFrom (m : Method) (answer : Obj) : IsSettled (sizeFrom m answer) := by
  refine isSettled_store.bind fun s => ?_
  split
  · split
    · exact isSettled_fail _
    · split
      · exact isSettled_fail _
      · exact isSettled_pure _
  · exact isSettled_fail _

/-- Making room is settled. -/
theorem isSettled_reserve (n : Nat) : IsSettled (reserve n) := by
  refine isSettled_of_run (r := fun s =>
    if s.capacity < n then .error (.fault .tooManyItems) else .ok ()) (fun s => ?_) fun _ => rfl
  have hget : (get : Run Session).run s = (.ok s, s) := rfl
  rw [reserve, run_bind_of_ok hget]
  split <;> rfl

/-- Asking an object for its size is settled. -/
theorem isSettled_foresee (o : Obj) : IsSettled (foresee o) := by
  have hby : IsSettled (sizeBy .length o) := by
    refine (isSettled_askAs o .length).bind fun answer? => ?_
    split
    · exact (isSettled_sizeFrom _ _).bind fun n => isSettled_pure _
    · exact isSettled_pure _
  have hguess : IsSettled (guess o) := by
    refine ((isSettled_askAs o .sizeHint).rescue fun _ => isSettled_pure none).bind
      fun answer? => ?_
    split
    · exact (isSettled_sizeFrom _ _).bind fun n => isSettled_pure _
    · exact isSettled_pure _
  refine isSettled_store.bind fun s => (hby.rescue fun _ => isSettled_pure none).bind
    fun size? => ?_
  split
  · exact isSettled_reserve _
  · split
    · exact isSettled_pure ()
    · refine hguess.bind fun size? => ?_
      split
      · exact isSettled_reserve _
      · exact isSettled_pure ()

/-- Asking for the next part is settled. -/
theorem isSettled_nextPart (o : Obj) : IsSettled (nextPart o) :=
  ((isSettled_askAs o .part).rescue fun _ => isSettled_pure none).rescue fun _ =>
    isSettled_pure none

/-- Listing by parts is settled. -/
theorem isSettled_partItems (o : Obj) (room : Nat) : IsSettled (partItems o room) := by
  induction room with
  | zero =>
    refine (isSettled_nextPart o).bind fun part? => ?_
    split
    · exact isSettled_fail _
    · exact isSettled_pure []
  | succ room ih =>
    refine (isSettled_nextPart o).bind fun part? => ?_
    split
    · exact ih.bind fun parts => isSettled_pure _
    · exact isSettled_pure []

/-- An object that holds no items is listed by parts if its class gives any. -/
theorem run_givenItems (o : Obj) (s : Session) : (givenItems o).run s =
    if (s.store.method? (s.store.typeOf o) .part).isSome then (partItems o s.capacity).run s
    else (.error (.fault (.notListable (s.store.typeName o))), s) := by
  have hget : (get : Run Session).run s = (.ok s, s) := rfl
  rw [givenItems, run_bind_of_ok hget]
  split <;> rfl

/-- Listing an object that holds no items is settled. -/
theorem isSettled_givenItems (o : Obj) : IsSettled (givenItems o) := by
  refine isSettled_of_run_withCalls (fun s =>
    if (s.store.method? (s.store.typeOf o) .part).isSome then partItems o s.capacity
    else fail (.notListable (s.store.typeName o))) (fun _ => []) (fun s => ?_) (fun s => ?_)
    (fun _ => ⟨rfl, rfl⟩) fun _ _ hcall => absurd hcall List.not_mem_nil
  · rw [withCalls_nil]
    rfl
  · split
    · exact isSettled_partItems o _
    · exact isSettled_fail _

end Run

/-- The items that an object yields. -/
inductive Items where
  /-- Objects that are there. -/
  | present (items : List Obj)
  /-- New objects. -/
  | fresh (made : List Entity)

namespace Store

/-- The store with more objects behind those that are there. -/
def extend (s : Store) (es : List Entity) : Store := ⟨s.entities ++ es.toArray⟩

/-- References to so many cells behind those that are there. -/
def newCells (s : Store) (n : Nat) : List Obj :=
  (List.range n).map fun i => .cell (s.entities.size + i)

/-- Whether an object can begin to be listed, so that it is asked for its size. -/
def isListed (s : Store) (o : Obj) : Bool :=
  (s.itemsHook? (s.typeOf o)).isSome ||
    ((s.content o).hasItems || (s.method? (s.typeOf o) .part).isSome)

/-- What comes of asking an object for its size. -/
def foretold (s : Store) (capacity : Nat) (o : Obj) : Except Raised Unit :=
  ((Run.foresee o).run (s.session capacity)).1

/-- The calls by which an object is asked for its size. -/
def sizeCalls (s : Store) (capacity : Nat) (o : Obj) : List Call :=
  ((Run.foresee o).run (s.session capacity)).2.calls

/-- The calls by which the class of an object is asked for parts, if it is listed by these. -/
def partCalls (s : Store) (capacity : Nat) (o : Obj) : List Call :=
  if (s.itemsHook? (s.typeOf o)).isSome || (s.content o).hasItems then []
  else ((Run.givenItems o).run (s.session capacity)).2.calls

/-- The calls that listing an object makes: that of the script if there is one, and those by
which it is asked for its size and then for its parts. -/
def listingCalls (s : Store) (capacity : Nat) (o : Obj) : List Call :=
  ((s.itemsHook? (s.typeOf o)).toList.map fun h => ⟨h.1, .items⟩) ++
    if s.isListed o then
      s.sizeCalls capacity o ++
        match s.foretold capacity o with
        | .ok () => s.partCalls capacity o
        | .error _ => []
    else []

/-- The next part, by what the class of an object does when it is asked for one. An exception
that means that there is none is not raised. -/
def nextPart (s : Store) : Behaviour → Except Raised (Option Obj)
  | .gives part => .ok (some part)
  | .throws e =>
    if s.isA e .indexError || s.isA e .stopIteration then .ok none else .error (.thrown e)

/-- What the class of an object gives for items. Where there is a part there always is a next
one, so that memory does not hold them. -/
def given (s : Store) (o : Obj) : Except Raised Items :=
  match s.method? (s.typeOf o) .part with
  | none => .error (.fault (.notListable (s.typeName o)))
  | some (_, behaviour) =>
    match s.nextPart behaviour with
    | .ok (some _) => .error (.fault .tooManyItems)
    | .ok none => .ok (.present [])
    | .error e => .error e

/-- What an object yields: the items of its script, the code points of a text, the integers of
bytes or of a range, the keys of a dictionary, the members of another container, or what its
class gives in their place. -/
def yielded (s : Store) (capacity : Nat) (o : Obj) : Except Raised Items :=
  match s.itemsHook? (s.typeOf o) with
  | some (_, it) =>
    match it.ending with
    | none => .ok (.present it.items)
    | some e => .error (if s.isA e .stopIteration then .fault .falseEnd else .thrown e)
  | none =>
    match s.content o with
    | .text t => .ok (.fresh (t.map fun c => ⟨.known .text, .text [c]⟩))
    | .bytes bs | .byteArray bs =>
      .ok (.fresh (bs.map fun b : Nat => ⟨.known .integer, .integer b⟩))
    | .list items | .tuple items | .set items => .ok (.present items)
    | .dictionary entries => .ok (.present (entries.map (·.1)))
    | .range start stop step =>
      let n := Printing.rangeLength start stop step
      if capacity < n then .error (.fault .tooManyItems)
      else .ok (.fresh ((List.range n).map fun i : Nat =>
        ⟨.known .integer, .integer (start + step * i)⟩))
    | .exhausted => .ok (.present [])
    | _ => s.given o

/-- The items with which listing an object ends: what it yields, if nothing was raised when it
was asked for its size. -/
def listed (s : Store) (capacity : Nat) (o : Obj) : Except Raised Items :=
  if s.isListed o then
    match s.foretold capacity o with
    | .ok () => s.yielded capacity o
    | .error e => .error e
  else s.yielded capacity o

end Store

namespace Items

/-- The objects that have to be made. -/
def made : Items → List Entity
  | .present _ => []
  | .fresh es => es

/-- The references to the items, once they have been made behind the objects of a store. -/
def references (s : Store) : Items → List Obj
  | .present items => items
  | .fresh es => s.newCells es.length

/-- References in a store mean the items. -/
def AreMeantBy (t : Store) (os : List Obj) : Items → Prop
  | .present items => os = items
  | .fresh es => os.map t.entity = es

end Items

namespace Store

variable {s : Store} {o : Obj}

/-- Objects that are there stay where they are. -/
theorem isContinuedBy_extend (s : Store) (es : List Entity) : s.IsContinuedBy (s.extend es) := by
  intro o ho
  cases o with
  | null | bool | known | logger => rfl
  | cell i =>
    have hi : i < s.entities.size := ho
    rw [entity, entity, extend, Array.getElem?_append_left hi]

/-- No new objects are added. -/
theorem extend_nil (s : Store) : s.extend [] = s := by
  change (⟨s.entities ++ #[]⟩ : Store) = s
  rw [Array.append_empty]

/-- One new object and then others are added together. -/
theorem extend_add (s : Store) (e : Entity) (es : List Entity) :
    (s.add e).2.extend es = s.extend (e :: es) := by
  have hentities : s.entities.push e ++ es.toArray = s.entities ++ (e :: es).toArray := by
    apply Array.toList_inj.mp
    simp only [Array.toList_append, Array.toList_push, List.append_assoc, List.singleton_append]
  exact congrArg Store.mk hentities

/-- The first of some new cells is the next one. -/
theorem newCells_succ (s : Store) (e : Entity) (n : Nat) :
    s.newCells (n + 1) = (s.add e).1 :: (s.add e).2.newCells n := by
  have hsize : (s.add e).2.entities.size = s.entities.size + 1 := Array.size_push e
  rw [newCells, newCells, hsize, List.range_succ_eq_map, List.map_cons, List.map_map]
  refine congrArg _ (List.map_congr_left fun i _ => ?_)
  rw [Function.comp_apply, Nat.succ_eq_add_one, Nat.add_assoc, Nat.add_comm 1]

/-- The items that an object yields are found under their references. -/
theorem areMeantBy_references (s : Store) (items : Items) :
    items.AreMeantBy (s.extend items.made) (items.references s) := by
  cases items with
  | present items => rfl
  | fresh es =>
    refine List.ext_getElem
      (by simp only [Items.references, newCells, List.length_map, List.length_range]) ?_
    intro i hi hi'
    have hentity : (s.extend es).entity (.cell (s.entities.size + i)) = es[i] := by
      rw [entity, extend, Array.getElem?_append_right (Nat.le_add_right _ _),
        Nat.add_sub_cancel_left, List.getElem?_toArray, List.getElem?_eq_getElem hi',
        Option.getD_some]
    simp only [Items.references, Items.made, newCells, List.getElem_map, List.getElem_range,
      hentity]

end Store

/-- The items with which listing ends are those that the object yields. -/
theorem Store.yielded_of_listed {s : Store} {capacity : Nat} {o : Obj} {items : Items}
    (h : s.listed capacity o = .ok items) : s.yielded capacity o = .ok items := by
  unfold listed at h
  split at h
  · split at h
    · exact h
    · cases h
  · exact h

/-- Listing an object calls hooks for listing only. -/
theorem Store.isOfListing_of_mem_listingCalls {s : Store} {capacity : Nat} {o : Obj} {call : Call}
    (h : call ∈ s.listingCalls capacity o) : call.hook.isOfListing = true := by
  have hparts : ∀ call ∈ s.partCalls capacity o, call.hook.isOfListing = true := by
    intro call hcall
    unfold partCalls at hcall
    split at hcall
    · exact absurd hcall List.not_mem_nil
    · exact (Run.isSettled_givenItems o).isOfListing (s.session capacity) call hcall
  rcases List.mem_append.mp h with hscript | h
  · obtain ⟨hook, -, rfl⟩ := List.mem_map.mp hscript
    rfl
  · split at h
    · rcases List.mem_append.mp h with hsize | h
      · exact (Run.isSettled_foresee o).isOfListing (s.session capacity) call hsize
      · split at h
        · exact hparts call h
        · exact absurd h List.not_mem_nil
    · exact absurd h List.not_mem_nil

namespace Session

/-- The session after the calls that listing an object makes. -/
def afterListing (s : Session) (o : Obj) : Session :=
  s.withCalls (s.store.listingCalls s.capacity o)

/-- How a session ends listing: with references to the items, once those that are new have been
made, or with what was raised. -/
def yielding (s : Session) : Except Raised Items → Except Raised (List Obj) × Session
  | .ok items => (.ok (items.references s.store), { s with store := s.store.extend items.made })
  | .error e => (.error e, s)

/-- Where there is a script, listing an object calls it and asks for the size. -/
theorem afterListing_of_script {s : Session} {o owner : Obj} {it : Iteration}
    (hook : s.store.itemsHook? (s.store.typeOf o) = some (owner, it)) : s.afterListing o =
      (s.withCalls [⟨owner, .items⟩]).withCalls (s.store.sizeCalls s.capacity o) := by
  have hlisted : s.store.isListed o = true := by
    rw [Store.isListed, hook, Option.isSome_some, Bool.true_or]
  have hparts : s.store.partCalls s.capacity o = [] := by
    rw [Store.partCalls, hook, Option.isSome_some, Bool.true_or, if_pos rfl]
  rw [Run.withCalls_append, afterListing, Store.listingCalls, hook, if_pos hlisted, hparts]
  cases s.store.foretold s.capacity o with
  | ok u | error e =>
    dsimp only
    rw [List.append_nil]
    rfl

/-- Where there is none, it asks for the size if it begins, and for parts if that goes well. -/
theorem afterListing_of_no_script {s : Session} {o : Obj}
    (hook : s.store.itemsHook? (s.store.typeOf o) = none) : s.afterListing o =
      s.withCalls (if s.store.isListed o then
        s.store.sizeCalls s.capacity o ++ match s.store.foretold s.capacity o with
          | .ok () => s.store.partCalls s.capacity o
          | .error _ => []
        else []) := by
  rw [afterListing, Store.listingCalls, hook]
  rfl

end Session

namespace Run

/-- Making objects one after the other gives references to the next cells. -/
theorem run_mapM_add {α : Type} (f : α → Entity) (xs : List α) (s : Session) :
    (xs.mapM fun x => add (f x)).run s =
      (.ok (s.store.newCells (xs.map f).length),
        { s with store := s.store.extend (xs.map f) }) := by
  induction xs generalizing s with
  | nil =>
    rw [List.map_nil, Store.extend_nil]
    rfl
  | cons x xs ih =>
    have hadd : (add (f x)).run s =
        (.ok (s.store.add (f x)).1, { s with store := (s.store.add (f x)).2 }) := rfl
    rw [List.mapM_cons, run_bind_of_ok hadd, run_bind_of_ok (ih _), List.map_cons,
      List.length_cons, Store.newCells_succ _ (f x), ← Store.extend_add]
    rfl

/-- Items that are there are listed without any effect. -/
theorem yielding_present (items : List Obj) (s : Session) :
    s.yielding (.ok (.present items)) = (.ok items, s) := by
  rw [Session.yielding, Items.made, Store.extend_nil]
  rfl

/-- The items of a script are what the object yields. -/
theorem run_scriptedItems {o owner : Obj} {it : Iteration} {s : Session}
    (hook : s.store.itemsHook? (s.store.typeOf o) = some (owner, it)) :
    (scriptedItems it).run s = s.yielding (s.store.yielded s.capacity o) := by
  rw [scriptedItems, Store.yielded, hook]
  dsimp only
  cases it.ending with
  | none => exact (yielding_present it.items s).symm
  | some e =>
    dsimp only
    rw [run_bind_of_ok (run_store s)]
    split <;> rfl

/-- Making new objects gives references to them. -/
theorem run_mapM_make {α : Type} (k : KnownClass) (content : α → Content) (xs : List α)
    (s : Session) : (xs.mapM fun x => make k (content x)).run s =
      s.yielding (.ok (.fresh (xs.map fun x => ⟨.known k, content x⟩))) :=
  run_mapM_add (fun x => ⟨.known k, content x⟩) xs s

/-- Listing a range makes its integers, if memory holds them. -/
theorem run_rangeItems (start stop step : Int) (s : Session) :
    (rangeItems start stop step).run s =
      if s.capacity < Printing.rangeLength start stop step then (.error (.fault .tooManyItems), s)
      else ((List.range (Printing.rangeLength start stop step)).mapM fun i : Nat =>
        make .integer (.integer (start + step * i))).run s := by
  have hget : (get : Run Session).run s = (.ok s, s) := rfl
  unfold rangeItems
  dsimp only
  rw [run_bind_of_ok hget]
  split
  · exact run_bind_of_error rfl
  · exact run_bind_of_ok rfl

/-- The next part is what the class of an object gives. -/
theorem run_nextPart {o owner : Obj} {behaviour : Behaviour} {s : Session}
    (h : s.store.method? (s.store.typeOf o) .part = some (owner, behaviour)) :
    (nextPart o).run s =
      (s.store.nextPart behaviour, s.withCalls [⟨owner, .listing .part⟩]) := by
  cases behaviour with
  | gives part =>
    have hask : (askAs (.listing .part) o .part).run s =
        (.ok (some part), s.withCalls [⟨owner, .listing .part⟩]) := by
      rw [askAs, run_bind_of_ok (run_store s), h]
      rfl
    exact run_rescue_of_ok (run_rescue_of_ok hask)
  | throws e =>
    have hask : (askAs (.listing .part) o .part).run s =
        (.error (.thrown e), s.withCalls [⟨owner, .listing .part⟩]) := by
      rw [askAs, run_bind_of_ok (run_store s), h]
      rfl
    rw [Store.nextPart]
    cases hindex : s.store.isA e .indexError with
    | true => exact run_rescue_of_ok (run_rescue_of_isA hask hindex)
    | false =>
      have hinner : (rescue (askAs (.listing .part) o .part) .indexError fun _ => pure none).run s =
          (.error (.thrown e), s.withCalls [⟨owner, .listing .part⟩]) :=
        run_rescue_of_not_isA hask hindex
      cases hstop : s.store.isA e .stopIteration with
      | true => exact run_rescue_of_isA hinner hstop
      | false => exact run_rescue_of_not_isA hinner hstop

/-- Listing an object by parts comes to what its class gives, however much room there is. -/
theorem fst_run_partItems {o owner : Obj} {behaviour : Behaviour} {s : Session}
    (h : s.store.method? (s.store.typeOf o) .part = some (owner, behaviour)) (room : Nat) :
    ((partItems o room).run s).1 = match s.store.nextPart behaviour with
      | .ok (some _) => .error (.fault .tooManyItems)
      | .ok none => .ok []
      | .error e => .error e := by
  have hnext := run_nextPart h
  cases hpart : s.store.nextPart behaviour with
  | error e =>
    rw [hpart] at hnext
    cases room <;> exact congrArg Prod.fst (run_bind_of_error hnext)
  | ok part? =>
    rw [hpart] at hnext
    cases part? with
    | none => cases room <;> exact congrArg Prod.fst (run_bind_of_ok hnext)
    | some part =>
      -- The class gives the same part again, so the room is used up in the end.
      induction room generalizing s with
      | zero => exact congrArg Prod.fst (run_bind_of_ok hnext)
      | succ room ih =>
        have hagain := run_nextPart (s := s.withCalls [⟨owner, .listing .part⟩]) h
        have hrest := ih (s := s.withCalls [⟨owner, .listing .part⟩]) h
          (hagain.trans (congrArg (Prod.mk · _) hpart)) hpart
        rw [partItems, run_bind_of_ok hnext]
        rcases hparts : (partItems o room).run (s.withCalls [⟨owner, .listing .part⟩]) with ⟨r, t⟩
        rw [hparts] at hrest
        cases hrest
        exact congrArg Prod.fst (run_bind_of_error hparts)

/-- Listing an object that holds no items comes to what its class gives. -/
theorem fst_run_givenItems (o : Obj) (s : Session) : ((givenItems o).run s).1 =
    (s.store.given o).map fun items => items.references s.store := by
  rw [run_givenItems, Store.given]
  cases h : s.store.method? (s.store.typeOf o) .part with
  | none => rfl
  | some p =>
    obtain ⟨owner, behaviour⟩ := p
    rw [if_pos Option.isSome_some, fst_run_partItems h]
    dsimp only
    rcases s.store.nextPart behaviour with e | (_ | part) <;> rfl

/-- If what a class gives for items ends, there are none. -/
theorem eq_of_given {s : Store} {o : Obj} {items : Items} (h : s.given o = .ok items) :
    items = .present [] := by
  unfold Store.given at h
  split at h
  · cases h
  · split at h <;> cases h
    rfl

/-- The items of an object that holds none are what its class gives. -/
theorem run_givenItems_of_given (o : Obj) (s : Session) : (givenItems o).run s =
    (s.withCalls ((givenItems o).run s.blank).2.calls).yielding (s.store.given o) := by
  have hfst := fst_run_givenItems o s.blank
  change _ = (s.store.given o).map _ at hfst
  rw [(isSettled_givenItems o).run_eq s]
  cases hgiven : s.store.given o with
  | error e =>
    rw [hgiven] at hfst
    exact Prod.ext hfst rfl
  | ok items =>
    rw [hgiven] at hfst
    obtain rfl := eq_of_given hgiven
    rw [yielding_present]
    exact Prod.ext hfst rfl

/-- Where there is no script, an object that holds items is not asked for parts. -/
theorem withCalls_partCalls_of_hasItems {o : Obj} {s : Session}
    (h : (s.store.content o).hasItems = true) :
    s.withCalls (s.store.partCalls s.capacity o) = s := by
  rw [Store.partCalls, h, Bool.or_true, if_pos rfl, withCalls_nil]

/-- The items that an object holds, or that its class gives, are what it yields without a
script. -/
theorem run_heldItems {o : Obj} {s : Session}
    (hook : s.store.itemsHook? (s.store.typeOf o) = none) : (heldItems o).run s =
      (s.withCalls (s.store.partCalls s.capacity o)).yielding
        (s.store.yielded s.capacity o) := by
  have hheld := withCalls_partCalls_of_hasItems (o := o) (s := s)
  have hparts : (s.store.content o).hasItems = false → s.store.partCalls s.capacity o =
      ((givenItems o).run s.blank).2.calls := by
    intro hitems
    rw [Store.partCalls, hook, hitems]
    rfl
  rw [heldItems, run_bind_of_ok (run_store s)]
  unfold Store.yielded
  rw [hook]
  dsimp only
  cases hcontent : s.store.content o with
  | text t =>
    rw [hheld (hcontent ▸ rfl)]
    exact run_mapM_make .text (fun c => .text [c]) t s
  | bytes bs | byteArray bs =>
    rw [hheld (hcontent ▸ rfl)]
    exact run_mapM_make .integer (fun b : Nat => .integer b) bs s
  | list items | tuple items | set items =>
    rw [hheld (hcontent ▸ rfl)]
    exact (yielding_present items s).symm
  | dictionary entries =>
    rw [hheld (hcontent ▸ rfl)]
    exact (yielding_present _ s).symm
  | exhausted =>
    rw [hheld (hcontent ▸ rfl)]
    exact (yielding_present [] s).symm
  | range start stop step =>
    rw [hheld (hcontent ▸ rfl)]
    dsimp only
    rw [run_rangeItems]
    split
    · rfl
    · exact run_mapM_make .integer (fun i : Nat => .integer (start + step * i)) _ s
  | bare | integer | floating | complexZero | exception | cls =>
    rw [hparts (hcontent ▸ rfl)]
    exact run_givenItems_of_given o s

/-- Asking an object for its size comes to what the objects and the capacity say. -/
theorem run_foresee (o : Obj) (s : Session) : (foresee o).run s =
    (s.store.foretold s.capacity o, s.withCalls (s.store.sizeCalls s.capacity o)) :=
  (isSettled_foresee o).run_eq s

/-- Listing an object that has a script comes to what the objects and the capacity say. -/
theorem run_itemsOf_of_script {o owner : Obj} {it : Iteration} {s : Session}
    (hook : s.store.itemsHook? (s.store.typeOf o) = some (owner, it)) :
    (itemsOf o).run s = (s.afterListing o).yielding (s.store.listed s.capacity o) := by
  have hlisted : s.store.isListed o = true := by
    rw [Store.isListed, hook, Option.isSome_some, Bool.true_or]
  have hnote : (noteCall owner .items).run s =
    (.ok (s.calls.count ⟨owner, .items⟩), s.withCalls [⟨owner, .items⟩]) := rfl
  have hforesee : (foresee o).run (s.withCalls [⟨owner, .items⟩]) =
      (s.store.foretold s.capacity o, s.afterListing o) := by
    rw [Session.afterListing_of_script hook]
    exact run_foresee o _
  rw [itemsOf, run_bind_of_ok (run_store s), hook]
  dsimp only
  rw [run_bind_of_ok hnote, Store.listed, if_pos hlisted]
  cases hforetold : s.store.foretold s.capacity o with
  | error e =>
    rw [hforetold] at hforesee
    exact run_bind_of_error hforesee
  | ok u =>
    rw [hforetold] at hforesee
    exact (run_bind_of_ok hforesee).trans (run_scriptedItems (s := s.afterListing o) hook)

/-- So does listing an object that has none. -/
theorem run_itemsOf_of_no_script {o : Obj} {s : Session}
    (hook : s.store.itemsHook? (s.store.typeOf o) = none) :
    (itemsOf o).run s = (s.afterListing o).yielding (s.store.listed s.capacity o) := by
  have hlisted : s.store.isListed o = ((s.store.content o).hasItems ||
      (s.store.method? (s.store.typeOf o) .part).isSome) := by
    rw [Store.isListed, hook, Option.isSome_none, Bool.false_or]
  rw [itemsOf, run_bind_of_ok (run_store s), hook]
  dsimp only
  rw [← hlisted, Store.listed, Session.afterListing_of_no_script hook]
  cases hbegun : s.store.isListed o with
  | true =>
    have hforesee := run_foresee o s
    rw [if_pos rfl, if_pos rfl, if_pos rfl]
    cases hforetold : s.store.foretold s.capacity o with
    | error e =>
      rw [hforetold] at hforesee
      rw [List.append_nil]
      exact run_bind_of_error hforesee
    | ok u =>
      rw [hforetold] at hforesee
      rw [run_bind_of_ok hforesee, ← withCalls_append]
      exact run_heldItems (s := s.withCalls (s.store.sizeCalls s.capacity o)) hook
  | false =>
    -- Nothing is asked for parts, for the class gives none.
    have hparts : s.store.partCalls s.capacity o = [] := by
      rw [hlisted, Bool.or_eq_false_iff] at hbegun
      have hgiven := run_givenItems o (s.store.session s.capacity)
      change _ = if (s.store.method? (s.store.typeOf o) .part).isSome then _ else _ at hgiven
      rw [hbegun.2] at hgiven
      rw [Store.partCalls, hook, hbegun.1, hgiven]
      rfl
    have hheld := run_heldItems hook
    rw [hparts] at hheld
    rw [if_neg Bool.false_ne_true, if_neg Bool.false_ne_true, if_neg Bool.false_ne_true]
    exact hheld

/-- Listing an object comes to what the objects and the capacity say. -/
theorem run_itemsOf (o : Obj) (s : Session) :
    (itemsOf o).run s = (s.afterListing o).yielding (s.store.listed s.capacity o) := by
  cases hook : s.store.itemsHook? (s.store.typeOf o) with
  | some h => exact run_itemsOf_of_script hook
  | none => exact run_itemsOf_of_no_script hook

end Run

end LenientText
