import LenientText.Object.Session

/-!
# Parts in brackets

Containers show their items between brackets, separated by commas. An object that
is being shown already is abbreviated where it is met again.
-/

namespace LenientText

namespace Bracket

/-- Parts between an opening and a closing bracket. -/
def around (opening closing : String) (parts : List Text) : Text :=
  .ofString opening ++ Text.join (.ofString ", ") parts ++ .ofString closing

/-- The parts of a tuple in brackets; a single one is followed by a comma. -/
def tuple : List Text → Text
  | [part] => .ofString "(" ++ part ++ .ofString ",)"
  | parts => around "(" ")" parts

end Bracket

/-- An object shown by the given means, or abbreviated if it is being shown
already. -/
def Run.once (active : List Obj) (o : Obj) (short : Text) (shown : Run Text) : Run Text :=
  if active.contains o then return short else shown

end LenientText
