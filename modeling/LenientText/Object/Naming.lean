import LenientText.Object.Comparison

/-!
# Names of classes and identities of objects

The qualified name of a class is led by its module, unless that is absent, empty
or the one of the most basic classes. A name that no hook touches is a text; a
hook may give anything, and what it gives is passed on. The identity form of an
object is the qualified name of its real class with the number of the object, in
base sixteen, behind an at sign. It never reads an attribute of the object.
-/

namespace LenientText

namespace Run

/-- The module whose classes are named without it. -/
def basicModule : Text := .ofString "builtins"

/-- A qualified name led by its module, unless that counts as false or is the one of the
most basic classes. -/
def ledBy (module qualified : TextOrObj) : Run TextOrObj := do
  if !(← truthOfEither module) then return qualified
  if ← equalsText basicModule module then return qualified
  let shownModule ← inserted module
  return .text (shownModule ++ .ofString "." ++ (← inserted qualified))

/-- The qualified name of an object that passes for a class, or else of its real
class. Module, name and qualified name are read in this order, each once; the
name is needed only where the qualified name is missing, but read always. -/
def qualifiedName (o : Obj) : Run TextOrObj := do
  let c ← classOf o
  let module ← readOr c .module (.object .null)
  let name ← read c .name
  let qualified ← readOr c .qualifiedName name
  ledBy module qualified

/-- The number of an object in base sixteen. -/
def identityHex (o : Obj) : Run Text := return Numeral.hex (← identity o)

/-- The identity form of an object. -/
def identityText (o : Obj) : Run Text := do
  let name ← qualifiedName ((← store).typeOf o)
  let number ← identityHex o
  return (← inserted name) ++ .ofString "@" ++ number

end Run

end LenientText
