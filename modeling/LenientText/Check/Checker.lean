import LenientText.Check.Hint

/-!
# Checking arguments and results

The check of arguments and results is not part of this library: it is handed to the
guarded operations, which only decide what is checked and when. A check may look at an
object as it likes, and so call hooks of it; it ends without a value, or raises
something. What is assumed of checks is stated where it is used. One check is given here,
which goes by the real class alone.
-/

namespace LenientText

/-- A check of arguments and results against their hints. -/
structure Checker where
  /-- Holds an argument against its hint. -/
  argument : Hint → Obj → Run Unit
  /-- Holds a result against its hint. -/
  result : Hint → Obj → Run Unit

/-- Fails with a fault unless an object is of a kind by its real class. -/
def Checker.demandMet (fault : Fault) (h : Hint) (o : Obj) : Run Unit := do
  if !h.isMetBy (← Run.store) o then Run.fail fault

/-- The check that believes no claims. -/
def Checker.strict : Checker := ⟨demandMet .unsuitable, demandMet .unsuitableResult⟩

/-- A result as it is, if it passes a check. -/
def Checker.deliver (check : Checker) (h : Hint) (o : Obj) : Run Obj := do
  check.result h o
  return o

end LenientText
