import LenientText.Object.Method
import LenientText.Object.Printing

/-!
# Lengths and numbers of objects

Texts, bytes and containers have a length, and integers and some doubles are whole
numbers. A class may answer for the length of its instances, with an integer that is
not negative and no greater than any length. An operation that asks an object of
another kind for either of them does not apply to it.
-/

namespace LenientText

/-- The length of a content, where it has one. -/
def Content.length? : Content → Option Nat
  | .text t => some t.length
  | .bytes bs | .byteArray bs => some bs.length
  | .list items | .tuple items | .set items => some items.length
  | .dictionary entries => some entries.length
  | .range start stop step => some (Printing.rangeLength start stop step)
  | _ => none

/-- The whole number that a content is, if it is one. -/
def Content.wholeNumber? : Content → Option Int
  | .integer n => some n
  | .floating bits => Floating.integer? bits
  | _ => none

namespace Run

/-- The size that an answer to the question for it stands for. -/
def sizeFrom (m : Method) (answer : Obj) : Run Nat := do
  let s ← store
  match s.integer? answer with
  | some n =>
    if n < 0 then fail (.negativeSize m)
    else if Text.maxLength < n then fail (.vastSize m)
    else return n.toNat
  | none => fail (.mismatch (.size m (s.typeName answer)))

/-- The length of an object. -/
def lengthOf (o : Obj) : Run Nat := do
  match ← ask o .length with
  | some answer => sizeFrom .length answer
  | none =>
    let s ← store
    match (s.content o).length? with
    | some n => return n
    | none => fail (.mismatch (.length (s.typeName o)))

/-- The whole number that an object is, or the mismatch for the name of its class
if it is none. -/
def wholeNumberOf (o : Obj) (mismatch : Text → Mismatch) : Run Int := do
  let s ← store
  match (s.content o).wholeNumber? with
  | some n => return n
  | none => fail (.mismatch (mismatch (s.typeName o)))

end Run

end LenientText
