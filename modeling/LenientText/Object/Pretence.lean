import LenientText.Object.Attribute
import LenientText.Object.Measure

/-!
# What stands against a pretence

An object may claim to be a text or a dictionary without being one. A check that
believes the claim lets it pass, and the first operation that needs what is
claimed ends the computation. Which fault that is depends on what the object
really is. A class has the operations of its instances, but takes the first
argument for the instance.
-/

namespace LenientText.Pretence

/-- What stands against splitting an object at a text. Bytes can be split, but not
at a text; and a class that can split takes the separator for what is to be split. -/
def split (s : Store) (o : Obj) (separator : Text) : Fault :=
  if s.isClass o then
    if s.derivesFrom o .text then .unreadable .malformed (Quoted.text separator)
    else if s.derivesFrom o .bytes then .mismatch (.onText "split" .bytes)
    else if s.derivesFrom o .byteArray then .mismatch (.onText "split" .byteArray)
    else s.noAttribute o (.ofString "split")
  else if s.isA o .bytes || s.isA o .byteArray then .mismatch .bytesAtText
  else s.noAttribute o (.ofString "split")

/-- What stands against searching an object for a text from its end. A class that
can search takes the text for what is to be searched, and has none to search for. -/
def search (s : Store) (o : Obj) : Fault :=
  if s.isClass o && s.derivesFrom o .text then .mismatch .emptySearch
  else if s.isClass o && s.derivesFrom o .bytes then .mismatch (.onText "rfind" .bytes)
  else if s.isClass o && s.derivesFrom o .byteArray then .mismatch (.onText "rfind" .byteArray)
  else s.noAttribute o (.ofString "rfind")

/-- What stands against listing the entries of an object. -/
def entries (s : Store) (o : Obj) : Fault :=
  if s.isClass o && s.derivesFrom o .dictionary then .mismatch .entriesOfNone
  else s.noAttribute o (.ofString "items")

/-- What stands against taking a part of an object for a text. Sequences have parts,
but these are no texts. -/
def part (s : Store) (o : Obj) : Fault :=
  match s.content o with
  | .list _ | .tuple _ | .bytes _ | .byteArray _ => .unsuitableResult
  | .dictionary _ => .mismatch .dictionaryPart
  | _ => .mismatch (.part (s.typeName o))

/-- What stands against putting an object behind a text. -/
def behind (s : Store) (o : Obj) : Fault := .mismatch (.behindText (s.typeName o))

/-- What stands against putting an instance of a known class behind an object. -/
def sum (other : KnownClass) (s : Store) (o : Obj) : Fault :=
  match s.content o with
  | .text _ => .mismatch (.behindText (.ofString other.name))
  | .list _ => .mismatch (.behindItems .list other)
  | .tuple _ => .mismatch (.behindItems .tuple other)
  | .bytes _ | .byteArray _ => .mismatch (.behindBytes (s.typeName o) other)
  | _ => .mismatch (.behindOther (s.typeName o) other)

/-- What stands against putting a text behind an object that is none. -/
def before : Store → Obj → Fault := sum .text

end LenientText.Pretence
