import LenientText.Lenient.Filling
import LenientText.Object.Listing

/-!
# Formatting that tolerates failures

A template, which may be any object, is filled with the texts of arguments. The
template is converted first, then the arguments are listed, then each is
converted, once and in order, whether or not there is a place for it. An object
that cannot be listed is the only argument itself.
-/

namespace LenientText

/-- The text that stands for absent arguments. -/
def Lenient.nullArguments : Text := .ofString "(Object[])null"

namespace Run

/-- A template filled with the given arguments. -/
def format (logger : Obj) (template : TextOrObj) (arguments : List Obj) : Run Text := do
  let t ← conversionEither logger template
  filled t (← arguments.mapM (convert logger))

/-- The arguments that an object stands for: its items, or itself. -/
def argumentsOf (o : Obj) : Run (List Obj) :=
  rescue (itemsOf o) .exception fun _ => return [o]

/-- A template filled with the arguments that an object stands for. -/
def formatArguments (logger : Obj) (template : TextOrObj) (arguments : Obj) : Run Text := do
  let t ← conversionEither logger template
  match arguments with
  | .null => filled t [Lenient.nullArguments]
  | o => filled t (← (← argumentsOf o).mapM (convert logger))

end Run

end LenientText
