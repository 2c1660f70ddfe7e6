import LenientText.Object.Truth

/-!
# Comparing objects with texts and numbers

An object is compared by what it holds, unless its class answers for that. The answer
may be any object, whose truth is what counts in a condition. What is no number cannot
be put in order with one, but it can be told to be another.
-/

namespace LenientText

namespace Run

/-- The answer of an object to the question for its order to some number, or else what
holds of the number that it is. -/
def ordered (o : Obj) (m : Method) (holds : Int → Bool) (mismatch : Text → Mismatch) :
    Run Obj := do
  match ← ask o m with
  | some answer => return answer
  | none => return .bool (holds (← wholeNumberOf o mismatch))

/-- Whether an object equals something, given whether it does by what it holds. -/
def equals (o : Obj) (own : Store → Bool) : Run Bool := do
  match ← ask o .equal with
  | some answer => truthOf answer
  | none => return own (← store)

/-- Whether an object equals an integer. -/
def equalsInteger (o : Obj) (n : Int) : Run Bool :=
  equals o fun s => (s.content o).wholeNumber? == some n

/-- Whether a plain text or an object equals a text. -/
def equalsText (expected : Text) : TextOrObj → Run Bool
  | .text t => return t == expected
  | .object o => equals o fun s => s.text? o == some expected

end Run

end LenientText
