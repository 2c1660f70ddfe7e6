import LenientText.Object.Pretence

/-!
# Versions

A version is written as integers joined by dots. Conversion reads each part as an
integer, the first unreadable part being reported. Versions are compared part by
part, and one that ends where the other goes on is the smaller.
-/

namespace LenientText.Version

/-- The integers of a version text. -/
def parse (t : Text) : Except Fault (List Int) :=
  (Text.parts Text.dot t).mapM fun p =>
    match Integer.read p with
    | .ok n => .ok n
    | .error cause => .error (.unreadable cause (Quoted.text p))

/-- The text of a version with the given parts. -/
def render (parts : List Int) : Text := Text.join [Text.dot] (parts.map Integer.decimal)

/-- Whether a version is smaller than another. -/
def isBefore : List Int → List Int → Bool
  | [], [] => false
  | [], _ :: _ => true
  | _ :: _, [] => false
  | m :: ms, n :: ns => m < n || (m == n && isBefore ms ns)

/-- The integers of a version given as an object. The only part of an empty text is
the object itself, which is therefore displayed as such. -/
def convert (o : Obj) : Run (List Int) := do
  if !(← Run.isInstance o .text) then Run.fail (.notVersion (← Run.textOf o))
  let s ← Run.store
  match s.text? o with
  | some t =>
    if t.isEmpty then
      Run.fail (.unreadable .malformed (← Run.plain (Run.written .display o)))
    match parse t with
    | .ok parts => return parts
    | .error f => Run.fail f
  | none => Run.fail (Pretence.split s o [Text.dot])

end LenientText.Version
