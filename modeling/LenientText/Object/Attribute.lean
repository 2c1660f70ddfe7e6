import LenientText.Object.Session

/-!
# Reading attributes

Four attributes of an object can be read: the class it claims, its module, its
name and its qualified name. A class may replace the reading by a hook of its
own, the nearest class first. Otherwise the reading is plain. Every object
claims its real class. Classes have names and mostly a module; other objects have
no names, and the module that their classes hand down.
-/

namespace LenientText

namespace Store

/-- Whether an object is really a class. -/
def isClass (s : Store) (o : Obj) : Bool := s.isA o .type

/-- The nearest hook for reading an attribute of the instances of a class. -/
def attributeHook? (s : Store) (cls : Obj) (a : Attribute) : Option (Obj × Script) :=
  (s.lineage cls).findSome? fun c =>
    ((s.classInfo? c).bind fun info => info.attributes.lookup a).map fun script => (c, script)

/-- The module that a class itself has. -/
def ownModule? (s : Store) (c : Obj) : Option TextOrObj :=
  match c with
  | .known k => some (.text (.ofString k.moduleName))
  | _ => ((s.classInfo? c).bind (·.module?)).map .object

/-- The module that a class hands down to descendants and instances. -/
def handedDown? (s : Store) (c : Obj) : Option TextOrObj :=
  match c with
  | .known k => if k.handsDownModule then some (.text (.ofString k.moduleName)) else none
  | _ => s.ownModule? c

/-- The nearest module that a lineage hands down. -/
def nearestModule? (s : Store) (classes : List Obj) : Option TextOrObj :=
  classes.findSome? s.handedDown?

/-- Whether what a lineage hands down is a property, which stands for a value
that it does not have. -/
def isBarred (s : Store) : TextOrObj → Bool
  | .text _ => false
  | .object o => s.isA o .property

/-- The module that instances of a class see. -/
def moduleOfInstance? (s : Store) (cls : Obj) : Option TextOrObj :=
  (s.nearestModule? (s.lineage cls)).filter fun m => !s.isBarred m

/-- The module of a class. A module handed down by the class of the class hides
the own one, unless the lineage of the class hands one down itself. A property
handed down by the class of the class hides both. -/
def moduleOfClass? (s : Store) (c : Obj) : Option TextOrObj :=
  match s.nearestModule? (s.lineage (s.typeOf c)) with
  | some m => if s.isBarred m then none else some ((s.nearestModule? (s.lineage c)).getD m)
  | none => s.ownModule? c

/-- The qualified name of a class as it was made. -/
def classQualifiedName (s : Store) (c : Obj) : Text :=
  match s.classInfo? c with
  | some info => info.qualifiedName
  | none => s.className c

/-- The reading of an attribute that no hook replaces, if the attribute exists. -/
def plainReading? (s : Store) (o : Obj) : Attribute → Option TextOrObj
  | .ownClass => some (.object (s.typeOf o))
  | .module =>
    if s.isClass o then s.moduleOfClass? o else s.moduleOfInstance? (s.typeOf o)
  | .name => if s.isClass o then some (.text (s.className o)) else none
  | .qualifiedName => if s.isClass o then some (.text (s.classQualifiedName o)) else none

/-- The fault of reading an attribute that does not exist. -/
def noAttribute (s : Store) (o : Obj) (spelling : Text) : Fault :=
  if s.isClass o then .noClassAttribute (s.className o) spelling
  else .noAttribute (s.typeName o) spelling

end Store

namespace Run

/-- Reads an attribute of an object. -/
def read (o : Obj) (a : Attribute) : Run TextOrObj := do
  let s ← store
  match s.attributeHook? (s.typeOf o) a with
  | some (owner, script) => return .object (← call owner (.reading a) script)
  | none =>
    match s.plainReading? o a with
    | some r => return r
    | none => fail (s.noAttribute o (.ofString a.spelling))

/-- Reads an attribute of an object, with something to take its place if there is
no such attribute. -/
def readOr (o : Obj) (a : Attribute) (default : TextOrObj) : Run TextOrObj :=
  rescue (read o a) .attributeError fun _ => return default

/-- Whether the class that an object claims is a known class or descends from it.
The claim is read once, and believed if it is a class other than the real one; an
object without a claim claims nothing. -/
def claims (o : Obj) (k : KnownClass) : Run Bool := do
  let claimed ← readOr o .ownClass (.object .null)
  let s ← store
  match claimed with
  | .object c => return s.isClass c && c != s.typeOf o && s.derivesFrom c k
  | .text _ => return false

/-- Whether an object is an instance of a known class. The real class decides if
it says so. Otherwise the claimed class does. -/
def isInstance (o : Obj) (k : KnownClass) : Run Bool := do
  if (← store).isA o k then return true
  claims o k

/-- The real class of an object decides without any effect. -/
theorem run_isInstance_of_isA {s : Session} {o : Obj} {k : KnownClass}
    (h : s.store.isA o k = true) : (isInstance o k).run s = (.ok true, s) := by
  have hs : store.run s = (.ok s.store, s) := rfl
  rw [isInstance, run_bind_of_ok hs, if_pos h]
  rfl

/-- An object itself if it passes for a class, and its real class otherwise. -/
def classOf (o : Obj) : Run Obj := do
  if ← isInstance o .type then return o else return (← store).typeOf o

end Run

end LenientText
