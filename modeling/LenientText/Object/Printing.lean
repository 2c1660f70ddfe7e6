import LenientText.Number.Floating
import LenientText.Object.Attribute
import LenientText.Object.Explanation

/-!
# The text and the display form of objects

Every object has a text and a display form. A class may script either; without a
script for the text the display form stands in, except that texts are their own
text and exceptions explain themselves. Containers display their items, and a
container met inside itself is abbreviated. The display form of classes uses
their plain names and calls no hook, and an object of which nothing else is known
shows where it lies.

How deep objects may be nested is an assumption: the interpreter's bound depends on
the frames above the call, and only nestings far below it and far beyond it are told
apart here. What is proved of forms holds at every depth that leaves room for them.
-/

namespace LenientText

namespace Store

/-- The nearest script for the text of the instances of a class. -/
def textHook? (s : Store) (cls : Obj) : Option (Obj × Script) :=
  (s.lineage cls).findSome? fun c =>
    ((s.classInfo? c).bind (·.text?)).map fun script => (c, script)

/-- The nearest script for the display form of the instances of a class. -/
def displayHook? (s : Store) (cls : Obj) : Option (Obj × Script) :=
  (s.lineage cls).findSome? fun c =>
    ((s.classInfo? c).bind (·.display?)).map fun script => (c, script)

/-- The name of a class in the display forms of itself and of its instances. The module
is shown if the class has one of its own that is a text, other than the module of the
most basic classes. -/
def shownName (s : Store) (c : Obj) : Text :=
  let shownModule? : Option Text := match s.ownModule? c with
    | some (.text m) => some m
    | some (.object m) => s.text? m
    | none => none
  match shownModule? with
  | some m =>
    if m = .ofString "builtins" then s.className c
    else m ++ .ofString "." ++ s.classQualifiedName c
  | none => s.className c

/-- The display form of a class. -/
def classDisplay (s : Store) (c : Obj) : Text :=
  .ofString "<class '" ++ s.shownName c ++ .ofString "'>"

end Store

/-- The display form of a logger: its kind, its name and the level in force. -/
def Registry.display (r : Registry) (name : Text) : Text :=
  let level := r.effectiveLevel name
  let shown := (Logger.levelName? level).getD (.ofString "Level " ++ Integer.decimal level)
  .ofString (if Registry.isRoot name then "<RootLogger " else "<Logger ") ++
    (r.logger name).name ++ .ofString " (" ++ shown ++ .ofString ")>"

namespace Printing

/-- The number of items of a range. -/
def rangeLength (start stop step : Int) : Nat :=
  if 0 < step then ((stop - start + step - 1) / step).toNat
  else if step < 0 then ((start - stop - step - 1) / (-step)).toNat
  else 0

/-- The part of a name behind its last dot. -/
def lastPart (name : Text) : Text := (name.reverse.takeWhile (· != Text.dot)).reverse

/-- Where an object lies in memory, as far as a display form tells it. Two objects in
cells lie at different places. -/
def place : Obj → Nat
  | .cell i => 0x7f0000000000 + 16 * i
  | _ => 0

/-- The display form of an object of a class with the shown name of which nothing else
is known. -/
def bare (shown : Text) (o : Obj) : Text :=
  .ofString "<" ++ shown ++ .ofString " object at 0x" ++ Numeral.hex (place o) ++ .ofString ">"

/-- The display form of bytes that may be replaced, with the name of their class. -/
def byteArray (name : Text) (bs : List Nat) : Text :=
  name ++ .ofString "(" ++ Quoted.bytes bs ++ .ofString ")"

end Printing

namespace Run

/-- The text of an integer, if it is short enough to be written. -/
def integerText (n : Int) : Run Text :=
  match Integer.text? n with
  | some t => return t
  | none => fail .unwritable

/-- The display form of an object without a script, given how the objects inside it
are displayed while it is itself being shown. -/
def contentDisplay (inside : List Obj → Obj → Run Text) (active : List Obj) (o : Obj) :
    Run Text := do
  let s ← get
  let name := s.store.className (s.store.typeOf o)
  let ownName := Printing.lastPart name
  match o with
  | .null => return .ofString "None"
  | .bool b => return .ofString (if b then "True" else "False")
  | .logger l => return s.registry.display l
  | _ =>
    if s.store.isClass o then return s.store.classDisplay o
    match s.store.content o with
    | .bare | .exhausted | .cls _ =>
      return Printing.bare (s.store.shownName (s.store.typeOf o)) o
    | .integer n => integerText n
    | .floating bits => return Floating.text bits
    | .complexZero => return .ofString "0j"
    | .text t => return Quoted.text t
    | .bytes bs => return Quoted.bytes bs
    | .byteArray bs => return Printing.byteArray ownName bs
    | .list items => once active o (.ofString "[...]") do
      return Bracket.around "[" "]" (← items.mapM (inside (o :: active)))
    | .tuple items => once active o (.ofString "(...)") do
      return Bracket.tuple (← items.mapM (inside (o :: active)))
    | .set [] => return name ++ .ofString "()"
    | .set members => once active o (name ++ .ofString "(...)") do
      return Bracket.around "\x7b" "\x7d" (← members.mapM (inside (o :: active)))
    | .dictionary entries => once active o (.ofString "\x7b...\x7d") do
      let shown ← entries.mapM fun e => do
        let key ← inside (o :: active) e.1
        return key ++ .ofString ": " ++ (← inside (o :: active) e.2)
      return Bracket.around "\x7b" "\x7d" shown
    | .range start stop step =>
      let bounds ← (if step = 1 then [start, stop] else [start, stop, step]).mapM integerText
      return Bracket.around "range(" ")" bounds
    | .exception [] _ => return ownName ++ .ofString "()"
    | .exception [a] _ => return ownName ++ .ofString "(" ++ (← inside active a) ++ .ofString ")"
    | .exception arguments _ =>
      let shown ← once active o (.ofString "(...)") do
        return Bracket.tuple (← arguments.mapM (inside (o :: active)))
      return ownName ++ shown

/-- The display form of an object, given how the objects inside it are displayed.
The form that was asked for is the text where the display form only stands in for
it. -/
def displayWith (asked : Form) (inside : List Obj → Obj → Run Text) (active : List Obj)
    (o : Obj) : Run TextOrObj := do
  let s ← store
  match s.displayHook? (s.typeOf o) with
  | some (owner, script) => callForText asked owner .display script
  | none => .text <$> contentDisplay inside active o

/-- The text of an object, given how the objects inside it are shown. A plain text
is its own text, and that of bytes is written without regard to scripts for the
display form. -/
def textWith (inside : Form → List Obj → Obj → Run TextOrObj) (active : List Obj) (o : Obj) :
    Run TextOrObj := do
  let s ← store
  match s.textHook? (s.typeOf o) with
  | some (owner, script) => callForText .text owner .text script
  | none =>
    let display (active : List Obj) (o : Obj) : Run Text := plain (inside .display active o)
    match s.content o with
    | .text t => return if s.typeOf o = .known .text then .object o else .text t
    | .bytes _ | .byteArray _ => .text <$> contentDisplay display active o
    | .exception arguments detail => explanation inside active o arguments detail
    | _ => displayWith .text display active o

/-- Either form of an object with at most so many levels inside it, while other
objects are being shown around it. A form that a hook gives is passed on as the
object it is. -/
def showWithin : Nat → Form → List Obj → Obj → Run TextOrObj
  | 0, _, _, _ => fail .tooDeep
  | depth + 1, .text, active, o => textWith (showWithin depth) active o
  | depth + 1, .display, active, o =>
    displayWith .display (fun active o => plain (showWithin depth .display active o)) active o

/-- How many levels of nesting are shown before the recursion is given up. -/
abbrev maxDepth : Nat := 990

/-- A form of an object, which a hook may have given as an object. -/
def written (form : Form) (o : Obj) : Run TextOrObj := showWithin maxDepth form [] o

/-- There is room for an object and for what it shows first. -/
theorem exists_written_eq (form : Form) (o : Obj) :
    ∃ depth, written form o = showWithin (depth + 2) form [] o := ⟨988, rfl⟩

/-- The text of an object. -/
def textOf (o : Obj) : Run Text := plain (written .text o)

/-- The text that stands for an object in a message, or a plain text itself. -/
def inserted : TextOrObj → Run Text
  | .text t => return t
  | .object o => textOf o

end Run

end LenientText
