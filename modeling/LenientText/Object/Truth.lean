import LenientText.Object.Measure

/-!
# Truth and equality of objects

An object counts as false if it stands for nothing, is the false truth value, a
zero, or has no content. A class may answer for the truth of its instances, or for
their length, which then counts unless they are numbers. Equality decides which keys
of a dictionary are one: numbers are compared as numbers whatever their kind, texts,
bytes, tuples and sets by what they hold, ranges as the sequences they stand for, and
all other objects by identity.
-/

namespace LenientText

namespace Store

/-- Whether an object counts as true by what it holds. -/
def isTrue (s : Store) (o : Obj) : Bool :=
  match o with
  | .null => false
  | _ =>
    match s.content o with
    | .integer n => n != 0
    | .floating bits => !Floating.isZero bits
    | .text t => !t.isEmpty
    | .complexZero => false
    | .bytes bs | .byteArray bs => !bs.isEmpty
    | .list items | .tuple items | .set items => !items.isEmpty
    | .dictionary entries => !entries.isEmpty
    | .range start stop step => Printing.rangeLength start stop step != 0
    | .bare | .exhausted | .exception _ _ | .cls _ => true

/-- A text counts as true unless it is empty. -/
theorem isTrue_of_content {s : Store} {o : Obj} {t : Text} (h : s.content o = .text t) :
    s.isTrue o = !t.isEmpty := by
  unfold isTrue
  split
  · cases h
  · rw [h]

/-- Whether two numbers are equal, of which the second one is a double. -/
def equalsDouble (bits : UInt64) : Content → Bool
  | .integer n => Floating.integer? bits == some n
  | .floating other =>
    !Floating.isNotNumber bits && !Floating.isNotNumber other &&
      (bits == other || (Floating.isZero bits && Floating.isZero other))
  | _ => false

/-- Whether a content is a number equal to zero. -/
def isNought : Content → Bool
  | .integer n => n == 0
  | .floating bits => Floating.isZero bits
  | .complexZero => true
  | _ => false

/-- Whether two ranges stand for the same sequence. -/
def sameRange (start stop step start' stop' step' : Int) : Bool :=
  let n := Printing.rangeLength start stop step
  n == Printing.rangeLength start' stop' step' &&
    (n == 0 || (start == start' && (n == 1 || step == step')))

/-- Whether two objects are equal, with tuples compared to the given depth. -/
def equalTo (s : Store) : Nat → Obj → Obj → Bool
  | 0, a, b => a == b
  | depth + 1, a, b =>
    a == b ||
      match s.content a, s.content b with
      | .integer m, .integer n => m == n
      | .complexZero, c => isNought c
      | c, .complexZero => isNought c
      | .floating bits, c => equalsDouble bits c
      | c, .floating bits => equalsDouble bits c
      | .text t, .text u => t == u
      | .bytes t, .bytes u => t == u
      | .tuple xs, .tuple ys =>
        xs.length == ys.length && (xs.zip ys).all fun p => s.equalTo depth p.1 p.2
      | .set xs, .set ys =>
        xs.length == ys.length && xs.all fun x => ys.any fun y => s.equalTo depth x y
      | .range a b c, .range a' b' c' => sameRange a b c a' b' c'
      | _, _ => false

/-- Whether two keys of a dictionary are one. Tuples are made after what they
hold, so that no nesting is deeper than the store is large. -/
def sameKey (s : Store) (a b : Obj) : Bool := s.equalTo (s.entities.size + 1) a b

/-- The entries with one more written into them. A key that is there keeps its
place and its first object, and takes the new value. -/
def putEntry (s : Store) (key value : Obj) : List (Obj × Obj) → List (Obj × Obj)
  | [] => [(key, value)]
  | e :: rest =>
    if s.sameKey e.1 key then (e.1, value) :: rest else e :: s.putEntry key value rest

/-- The entries of a dictionary into which pairs are written one after the other. -/
def entriesOf (s : Store) (pairs : List (Obj × Obj)) : List (Obj × Obj) :=
  pairs.foldl (fun entries p => s.putEntry p.1 p.2 entries) []

/-- Whether a content is a number, which has a truth of its own. -/
def isNumber : Content → Bool
  | .integer _ | .floating _ | .complexZero => true
  | _ => false

end Store

namespace Run

/-- Whether an object counts as true. -/
def truthOf (o : Obj) : Run Bool := do
  match ← ask o .truth with
  | some (.bool b) => return b
  | some answer => fail (.mismatch (.truth ((← store).typeName answer)))
  | none =>
    let s ← store
    if Store.isNumber (s.content o) then return s.isTrue o
    match ← ask o .length with
    | some answer => return (← sizeFrom .length answer) != 0
    | none => return s.isTrue o

/-- Whether a plain text or an object counts as true. -/
def truthOfEither : TextOrObj → Run Bool
  | .text t => return !t.isEmpty
  | .object o => truthOf o

end Run

end LenientText
