import LenientText.Object.KnownClass

/-!
# Objects with scripted behaviour

An object has a class and a content, and both stand in a store; a reference names
the object. Objects of which there is only one are named as such, so that two
references are equal exactly if they mean the same object. Classes may carry
hooks. A hook for the text, the display form or an attribute is a script of
outcomes: each call gives an object or throws an exception, and the last outcome
repeats for ever. A listing yields items and may then throw, and a method answers
every call alike.

These are all the hooks there are. A class cannot replace arithmetic, hashing, the
search for attributes as such, or the way its instances are laid out by a format,
and no hook changes objects. Where an operation rests on these it goes by what an
object holds.
-/

namespace LenientText

/-- A reference to an object. -/
inductive Obj where
  /-- The object that stands for nothing. -/
  | null
  /-- One of the two truth values. -/
  | bool (b : Bool)
  /-- A known class. -/
  | known (c : KnownClass)
  /-- The logger of a name. -/
  | logger (name : Text)
  /-- An object kept in a cell of the store. -/
  | cell (index : Nat)
deriving DecidableEq, Repr

/-- A plain text, or an object in its place. Names are texts until a hook or an
unusual class gives something else for them, and the text that a hook gives may
be an instance of a class of its own. -/
inductive TextOrObj where
  /-- A plain text. -/
  | text (t : Text)
  /-- An object. -/
  | object (o : Obj)
deriving DecidableEq, Repr

/-- An attribute whose reading a class may replace. -/
inductive Attribute where
  /-- The class that an object claims. -/
  | ownClass
  /-- The module of a class. -/
  | module
  /-- The name of a class. -/
  | name
  /-- The name of a class with the names of the classes around it. -/
  | qualifiedName
deriving DecidableEq, Repr

/-- The spelling of an attribute. -/
def Attribute.spelling : Attribute → String
  | .ownClass => "__class__"
  | .module => "__module__"
  | .name => "__name__"
  | .qualifiedName => "__qualname__"

/-- The two ways in which an object is written. -/
inductive Form where
  /-- The text. -/
  | text
  /-- The display form. -/
  | display
deriving DecidableEq, Repr

/-- A method by which a class may answer for what its instances hold. -/
inductive Method where
  /-- Finding a text in the instance. -/
  | find
  /-- Taking a part of the instance. -/
  | part
  /-- The truth of the instance. -/
  | truth
  /-- The length of the instance. -/
  | length
  /-- A guess at how many items the instance has. -/
  | sizeHint
  /-- Whether the instance is at least a number. -/
  | atLeast
  /-- Whether the instance is at most a number. -/
  | atMost
  /-- Whether the instance equals something. -/
  | equal
  /-- Where the instance was thrown. -/
  | trail
deriving DecidableEq, Repr

/-- The spelling of a method. -/
def Method.spelling : Method → String
  | .find => "find"
  | .part => "__getitem__"
  | .truth => "__bool__"
  | .length => "__len__"
  | .sizeHint => "__length_hint__"
  | .atLeast => "__ge__"
  | .atMost => "__le__"
  | .equal => "__eq__"
  | .trail => "__traceback__"

/-- A place at which a class may have its own behaviour. -/
inductive Hook where
  /-- The text of an instance. -/
  | text
  /-- The display form of an instance. -/
  | display
  /-- The items of an instance. -/
  | items
  /-- The reading of an attribute of an instance. -/
  | reading (a : Attribute)
  /-- A method of an instance. -/
  | method (m : Method)
  /-- The same method, where it is asked in listing an instance. -/
  | listing (m : Method)
deriving DecidableEq, Repr

/-- The word for a hook in a trace of calls. -/
def Hook.spelling : Hook → String
  | .text => "str"
  | .display => "repr"
  | .items => "iter"
  | .reading a => a.spelling
  | .method m | .listing m => m.spelling

/-- Whether a hook is scripted anew for every call. The others answer every call alike. -/
def Hook.isScripted : Hook → Bool
  | .text | .display | .reading _ => true
  | .items | .method _ | .listing _ => false

/-- What one call of a hook does. -/
inductive Behaviour where
  /-- The call gives an object. -/
  | gives (o : Obj)
  /-- The call throws an exception. -/
  | throws (exception : Obj)
deriving DecidableEq, Repr

/-- The behaviour of the successive calls of a hook, at least one. -/
structure Script where
  /-- What the first call does. -/
  first : Behaviour
  /-- What the calls after it do. -/
  later : List Behaviour
deriving DecidableEq, Repr

/-- What the call after so many earlier ones does. The last behaviour repeats. -/
def Script.after (s : Script) (calls : Nat) : Behaviour :=
  match (s.first :: s.later)[calls]? with
  | some b => b
  | none => s.later.getLast?.getD s.first

/-- What listing an instance does: it yields items and may then throw. -/
structure Iteration where
  /-- The items in order. -/
  items : List Obj
  /-- The exception after the last item, if there is one. -/
  ending : Option Obj
deriving DecidableEq, Repr

/-- What makes up a class that is not known from the start. -/
structure ClassInfo where
  /-- The name. -/
  name : Text
  /-- The name with the names of the classes around it. -/
  qualifiedName : Text
  /-- The word for the class in traces. -/
  tag : Text
  /-- The module, which need not be a text and may be absent. -/
  module? : Option Obj
  /-- The ancestors, nearest first. -/
  ancestors : List Obj
  /-- The script for the text of instances. -/
  text? : Option Script
  /-- The script for the display form of instances. -/
  display? : Option Script
  /-- The script for listing instances. -/
  items? : Option Iteration
  /-- The scripts for reading attributes of instances. -/
  attributes : List (Attribute × Script)
  /-- The methods of instances, each with what every call of it does. -/
  methods : List (Method × Behaviour)
deriving DecidableEq, Repr

/-- What an exception keeps besides its arguments. -/
inductive Detail where
  /-- Nothing. -/
  | none
  /-- The files that an error of the operating system is about, one or two. -/
  | files (names : List Obj)
  /-- The file and the line that a syntax error is about, as far as they are known. -/
  | place (file? : Option Text) (line? : Option Int)
deriving DecidableEq, Repr

/-- What an object holds. -/
inductive Content where
  /-- Nothing. -/
  | bare
  /-- An integer. -/
  | integer (n : Int)
  /-- The bits of a double. -/
  | floating (bits : UInt64)
  /-- The complex number zero, the only one there is. -/
  | complexZero
  /-- A text. -/
  | text (t : Text)
  /-- Bytes. -/
  | bytes (bs : List Nat)
  /-- Bytes that may be replaced. -/
  | byteArray (bs : List Nat)
  /-- The items of a list. -/
  | list (items : List Obj)
  /-- The items of a tuple. -/
  | tuple (items : List Obj)
  /-- The members of a set. -/
  | set (members : List Obj)
  /-- The entries of a dictionary in order. -/
  | dictionary (entries : List (Obj × Obj))
  /-- The bounds and the step of a range. -/
  | range (start stop step : Int)
  /-- An iterator that is at its end. -/
  | exhausted
  /-- The arguments of an exception and what it keeps besides. -/
  | exception (arguments : List Obj) (detail : Detail)
  /-- A class. -/
  | cls (info : ClassInfo)
deriving DecidableEq, Repr

/-- An object: a class and a content. -/
structure Entity where
  /-- The class. -/
  type : Obj
  /-- The content. -/
  content : Content
deriving DecidableEq, Repr

/-- The objects in cells. -/
structure Store where
  /-- The objects, each at the index of its cell. -/
  entities : Array Entity
deriving DecidableEq, Repr

namespace Store

/-- The store without objects. -/
def empty : Store := ⟨#[]⟩

/-- The object that a reference means. An empty cell holds a plain object. -/
def entity (s : Store) : Obj → Entity
  | .null => ⟨.known .none, .bare⟩
  | .bool b => ⟨.known .boolean, .integer (if b then 1 else 0)⟩
  | .known c => ⟨.known c.metaclass, .bare⟩
  | .logger name =>
    ⟨.known (if name = .ofString "root" then .rootLogger else .logger), .bare⟩
  | .cell i => s.entities[i]?.getD ⟨.known .object, .bare⟩

/-- The class of an object. -/
def typeOf (s : Store) (o : Obj) : Obj := (s.entity o).type

/-- The content of an object. -/
def content (s : Store) (o : Obj) : Content := (s.entity o).content

/-- The store with one more object, and the reference to it. -/
def add (s : Store) (e : Entity) : Obj × Store :=
  (.cell s.entities.size, ⟨s.entities.push e⟩)

/-- The store with the content of a cell replaced. -/
def setContent (s : Store) (o : Obj) (c : Content) : Store :=
  match o with
  | .cell i => ⟨s.entities.modify i fun e => { e with content := c }⟩
  | _ => s

/-- What makes up a class, for those that are not known from the start. -/
def classInfo? (s : Store) (o : Obj) : Option ClassInfo :=
  match s.content o with
  | .cls info => some info
  | _ => none

/-- A class and its ancestors, nearest first. -/
def lineage (s : Store) (c : Obj) : List Obj :=
  match c with
  | .known k => k.lineage.map .known
  | _ =>
    match s.classInfo? c with
    | some info => c :: info.ancestors
    | none => [c]

/-- Whether a class is a known class or descends from it. -/
def derivesFrom (s : Store) (c : Obj) (k : KnownClass) : Bool := (s.lineage c).contains (.known k)

/-- Whether the real class of an object is a known class or descends from it. -/
def isA (s : Store) (o : Obj) (k : KnownClass) : Bool := s.derivesFrom (s.typeOf o) k

/-- The plain name of a class. -/
def className (s : Store) (c : Obj) : Text :=
  match c with
  | .known k => .ofString k.name
  | _ =>
    match s.classInfo? c with
    | some info => info.name
    | none => []

/-- The name of the class of an object. -/
def typeName (s : Store) (o : Obj) : Text := s.className (s.typeOf o)

/-- The text that an object holds, if it is one. -/
def text? (s : Store) (o : Obj) : Option Text :=
  match s.content o with
  | .text t => some t
  | _ => none

/-- A plain text itself, and the text that an object in its place holds. -/
def plain (s : Store) : TextOrObj → Text
  | .text t => t
  | .object o => (s.text? o).getD []

/-- The integer that an object holds, if it is one. -/
def integer? (s : Store) (o : Obj) : Option Int :=
  match s.content o with
  | .integer n => some n
  | _ => none

/-- The content of an instance of a class that is made without arguments. -/
def freshContent (s : Store) (cls : Obj) : Content :=
  if s.derivesFrom cls .text then .text []
  else if s.derivesFrom cls .list then .list []
  else if s.derivesFrom cls .tuple then .tuple []
  else if s.derivesFrom cls .dictionary then .dictionary []
  else if s.derivesFrom cls .set || s.derivesFrom cls .frozenSet then .set []
  else if s.derivesFrom cls .bytes then .bytes []
  else if s.derivesFrom cls .byteArray then .byteArray []
  else if s.derivesFrom cls .integer then .integer 0
  else if s.derivesFrom cls .floating then .floating 0
  else if s.derivesFrom cls .complex then .complexZero
  else if s.derivesFrom cls .zipped then .exhausted
  else if s.derivesFrom cls .baseException then .exception [] .none
  else .bare

/-- The class of a known class is a known class. -/
theorem typeOf_known (s : Store) (k : KnownClass) : s.typeOf (.known k) = .known k.metaclass := rfl

/-- Descent among known classes does not depend on the store. -/
theorem derivesFrom_known (s : Store) (k d : KnownClass) :
    s.derivesFrom (.known k) d = k.derivesFrom d := by
  rw [Bool.eq_iff_iff]
  simp only [derivesFrom, lineage, KnownClass.derivesFrom, List.contains_iff_mem, List.mem_map,
    Obj.known.injEq, exists_eq_right]

/-- An object from which a text is read off holds it. -/
theorem content_of_text? {s : Store} {o : Obj} {t : Text} (h : s.text? o = some t) :
    s.content o = .text t := by
  unfold text? at h
  split at h
  · next u hu => rw [hu, Option.some.inj h]
  · cases h

/-- Nothing is found on the lineage of a known class that no known class has. -/
theorem findSome?_lineage_known {α : Type} (s : Store) (k : KnownClass) {f : Obj → Option α}
    (hf : ∀ d : KnownClass, f (.known d) = none) :
    (s.lineage (.known k)).findSome? f = none := by
  refine List.findSome?_eq_none_iff.mpr fun c hc => ?_
  obtain ⟨d, -, rfl⟩ := List.mem_map.mp hc
  exact hf d

/-- A new object is found under its reference. -/
theorem entity_add (s : Store) (e : Entity) : (s.add e).2.entity (s.add e).1 = e := by
  simp only [add, entity, Array.getElem?_push_size, Option.getD_some]

end Store

end LenientText
