import LenientText.Object.Pretence
import LenientText.Object.Truth

/-!
# Dependencies and their requirement lines

Dependencies are kept as a dictionary from names to constraints. A dependency
with a constraint is written as both, separated by a space. One without is the
bare name, whatever object that is.
-/

namespace LenientText.Dependency

/-- The requirement line of one dependency. -/
def line (name constraint : Obj) : Run TextOrObj := do
  if ← Run.truthOf constraint then
    let shown ← Run.textOf name
    return .text (shown ++ .ofString " " ++ (← Run.textOf constraint))
  else return .object name

/-- The requirement lines of a dictionary of dependencies. -/
def lines (o : Obj) : Run (List TextOrObj) := do
  if !(← Run.isInstance o .dictionary) then
    Run.fail (.notDictionary (← Run.inserted (← Run.written .display o)))
  let s ← Run.store
  match s.content o with
  | .dictionary entries => entries.mapM fun e => line e.1 e.2
  | _ => Run.fail (Pretence.entries s o)

/-- The requirement line of a dependency whose name and constraint are texts. -/
def plainLine (d : String × String) : Text :=
  if d.2.isEmpty then .ofString d.1 else .ofString (d.1 ++ " " ++ d.2)

end LenientText.Dependency
