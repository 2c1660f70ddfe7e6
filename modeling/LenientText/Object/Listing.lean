import LenientText.Object.Measure

/-!
# Listing the items of an object

A class may script what listing its instances yields. Without a script, texts are
listed by code point, bytes by value, dictionaries by key, and the other
containers by item. What is none of these is listed by the parts that its class gives,
if that gives any, and otherwise not at all. Once an object has begun to be listed it is
asked for its size, so that room can be made: by its length, and if it has none by a guess.
A mismatch of the length is passed over, and anything else that is raised ends the listing.
Listing is all or nothing: if it raises something, what it yielded before is not seen.
-/

namespace LenientText

/-- The nearest script for listing the instances of a class. -/
def Store.itemsHook? (s : Store) (cls : Obj) : Option (Obj × Iteration) :=
  (s.lineage cls).findSome? fun c =>
    ((s.classInfo? c).bind (·.items?)).map fun it => (c, it)

/-- Whether a content has items. -/
def Content.hasItems : Content → Bool
  | .text _ | .bytes _ | .byteArray _ | .list _ | .tuple _ | .set _ | .dictionary _
  | .range _ _ _ | .exhausted => true
  | _ => false

namespace Run

/-- Makes room for so many items, if memory holds them. -/
def reserve (n : Nat) : Run Unit := do
  if (← get).capacity < n then fail .tooManyItems

/-- The size that an object has by a method of its class, if that has one. -/
def sizeBy (m : Method) (o : Obj) : Run (Option Nat) := do
  match ← askAs (.listing m) o m with
  | some answer => return some (← sizeFrom m answer)
  | none => return none

/-- The guess of an object at how many items it has, if its class makes one. A mismatch
that the class raises is passed over, but not an answer that is no integer. -/
def guess (o : Obj) : Run (Option Nat) := do
  let answer? ← rescue (askAs (.listing .sizeHint) o .sizeHint) .typeError fun _ => return none
  match answer? with
  | some answer => return some (← sizeFrom .sizeHint answer)
  | none => return none

/-- Asks an object for its size, and makes room for as many items. An object that holds
items has as many as it holds where its class does not answer for it. -/
def foresee (o : Obj) : Run Unit := do
  let s ← store
  match ← rescue (sizeBy .length o) .typeError fun _ => return none with
  | some n => reserve n
  | none =>
    if (s.content o).length?.isSome && (s.method? (s.typeOf o) .length).isNone then return ()
    match ← guess o with
    | some n => reserve n
    | none => return ()

/-- The items of a scripted listing. An exception that means a regular end is not
taken for one, and replaced. -/
def scriptedItems (it : Iteration) : Run (List Obj) := do
  match it.ending with
  | none => return it.items
  | some e => if (← store).isA e .stopIteration then fail .falseEnd else throw (.thrown e)

/-- The integers of a range. -/
def rangeItems (start stop step : Int) : Run (List Obj) := do
  let n := Printing.rangeLength start stop step
  if (← get).capacity < n then fail .tooManyItems
  (List.range n).mapM fun i : Nat => make .integer (.integer (start + step * i))

/-- The part that the class of an object gives for the next item. An exception that means
that there is none is not raised. -/
def nextPart (o : Obj) : Run (Option Obj) :=
  rescue (rescue (askAs (.listing .part) o .part) .indexError fun _ => return none)
    .stopIteration fun _ => return none

/-- The parts of an object, for which memory has so much room. -/
def partItems (o : Obj) : Nat → Run (List Obj)
  | 0 => do
    match ← nextPart o with
    | some _ => fail .tooManyItems
    | none => return []
  | room + 1 => do
    match ← nextPart o with
    | some part => return part :: (← partItems o room)
    | none => return []

/-- The items of an object that holds none: the parts that its class gives, if it gives any. -/
def givenItems (o : Obj) : Run (List Obj) := do
  let s ← get
  if (s.store.method? (s.store.typeOf o) .part).isSome then partItems o s.capacity
  else fail (.notListable (s.store.typeName o))

/-- The items that an object holds, or that its class gives. -/
def heldItems (o : Obj) : Run (List Obj) := do
  let s ← store
  match s.content o with
  | .text t => t.mapM fun c => make .text (.text [c])
  | .bytes bs | .byteArray bs => bs.mapM fun b : Nat => make .integer (.integer b)
  | .list items | .tuple items | .set items => return items
  | .dictionary entries => return entries.map (·.1)
  | .range start stop step => rangeItems start stop step
  | .exhausted => return []
  | _ => givenItems o

/-- The items of an object. -/
def itemsOf (o : Obj) : Run (List Obj) := do
  let s ← store
  match s.itemsHook? (s.typeOf o) with
  | some (owner, it) =>
    let _ ← noteCall owner .items
    foresee o
    scriptedItems it
  | none =>
    if (s.content o).hasItems || (s.method? (s.typeOf o) .part).isSome then foresee o
    heldItems o

end Run

end LenientText
