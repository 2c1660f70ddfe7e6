import LenientText.Lenient.Conversion
import LenientText.Object.Comparison
import LenientText.Object.Pretence
import LenientText.Text.Template

/-!
# Filling a template

The places of a template are looked for from left to right, as long as there are
arguments, and what lies between them is copied. A template may be an instance of a
class of its own, which may answer for where a place is and for what a part of it is.
Such answers are believed: a place may be found where there is none, or none where there
is one, a place may be something else than an integer, and a part may be any object. Only
where a part is cut out, where the scan goes on behind a place, and where all parts are
joined in the end, this is found out. A template whose class answers for neither is filled
as the plain text that it holds.
-/

namespace LenientText

namespace Run

/-- Where a template is cut at a place: at an index, or at what its class answered for it. -/
inductive Cut where
  /-- At an index. -/
  | index (n : Int)
  /-- At an object that is no integer. -/
  | answer (o : Obj)
deriving DecidableEq, Repr

/-- The place that an answer to the question for the next one means, if it means one. -/
def cutFrom (answer : Obj) : Run (Option Cut) := do
  if ← equalsInteger answer (-1) then return none
  match (← store).integer? answer with
  | some n => return some (.index n)
  | none => return some (.answer answer)

/-- The start of a part as an index. After a place that was another number there is none. -/
def startFrom : Option Int → Run Int
  | some start => return start
  | none => fail (.mismatch .bound)

/-- The end of a part as an index, unless it is left open. -/
def stopFrom : Option Cut → Run (Option Int)
  | none | some (.answer .null) => return none
  | some (.index n) => return some n
  | some (.answer _) => fail (.mismatch .bound)

/-- Where the scan goes on behind a place: at an index, if the place is one. Behind another
number it goes on as well. -/
def behindCut : Cut → Run (Option Int)
  | .index n => return some (n + Template.placeholder.length)
  | .answer o => do
    let s ← store
    if Store.isNumber (s.content o) then return none
    fail (Pretence.sum .integer s o)

/-- The next place of a template at a start or behind it. -/
def findPlace (template : TextOrObj) (start? : Option Int) : Run (Option Cut) := do
  let own : Run (Option Cut) := do
    let start ← startFrom start?
    return (Template.placeFrom? ((← store).plain template) start.toNat).map fun n : Nat => .index n
  match template with
  | .text _ => own
  | .object o =>
    match ← ask o .find with
    | some answer => cutFrom answer
    | none => own

/-- The part of a template from a start up to a place or to the end. -/
def partOf (template : TextOrObj) (start? : Option Int) (stop? : Option Cut) :
    Run TextOrObj := do
  let own : Run TextOrObj := do
    let start ← startFrom start?
    let stop? ← stopFrom stop?
    return .text (((← store).plain template).slice start stop?)
  match template with
  | .text _ => own
  | .object o =>
    match ← ask o .part with
    | some answer => return .object answer
    | none => own

/-- The parts of the text that a template is filled to, from a start. Each argument has a
place as long as the template has one, and the others follow in brackets. -/
def partsFrom (template : TextOrObj) (start? : Option Int) : List Text → Run (List TextOrObj)
  | [] => return [← partOf template start? none]
  | a :: rest => do
    match ← findPlace template start? with
    | some place =>
      let part ← partOf template start? (some place)
      return part :: .text a :: (← partsFrom template (← behindCut place) rest)
    | none =>
      let part ← partOf template start? none
      return [part, .text (.ofString " ["), .text (Text.join (.ofString ", ") (a :: rest)),
        .text (.ofString "]")]

/-- Parts joined to a text, given how many stand before them. All of them have to be texts. -/
def joinedFrom (n : Nat) : List TextOrObj → Run Text
  | [] => return []
  | .text t :: rest => return t ++ (← joinedFrom (n + 1) rest)
  | .object o :: rest => do
    let s ← store
    match s.text? o with
    | some t => return t ++ (← joinedFrom (n + 1) rest)
    | none => fail (.mismatch (.member n (s.typeName o)))

/-- A template filled with texts. -/
def filled (template : TextOrObj) (arguments : List Text) : Run Text := do
  joinedFrom 0 (← partsFrom template (some 0) arguments)

end Run

end LenientText
