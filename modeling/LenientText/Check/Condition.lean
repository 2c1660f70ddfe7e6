import LenientText.Lenient.Format

/-!
# Conditions on arguments

Two checks end a computation: an object that must not be absent is, or a
condition does not hold. The message of the second is formatted leniently, and
only when it is needed.
-/

namespace LenientText

namespace Run

/-- Fails if an object is absent. The text of the label is only asked for then. -/
def requirePresent (o : Obj) (label : TextOrObj) : Run Unit := do
  match o with
  | .null => fail (.missing (← inserted label))
  | _ => return ()

/-- Fails if a condition does not hold, with a template and its arguments for the
message. -/
def require (condition : Bool) (template : TextOrObj) (arguments : List Obj) : Run Unit := do
  if condition then return ()
  fail (.rejected (← format .null template arguments))

end Run

end LenientText
