import LenientText.Text.Surrogate

/-!
# Reading a text in units

A unit of a text is a surrogate pair or a single code point. One reading goes
from the left and joins a high surrogate with a low one right after it. The
other goes from the right and joins a low surrogate with a high one right before
it. Both are defined here for all texts, well formed or not, together with the
indices at which their units start.
-/

namespace LenientText.Text

/-- The units of a text, read from the left. -/
def unitsFromStart : Text → List Text
  | a :: b :: rest =>
    if isPair a b then [a, b] :: unitsFromStart rest
    else [a] :: unitsFromStart (b :: rest)
  | [a] => [[a]]
  | [] => []

/-- The units of a text whose code points are listed from its end, last unit
first. -/
def unitsBackward : Text → List Text
  | b :: a :: rest =>
    if isPair a b then [a, b] :: unitsBackward rest
    else [b] :: unitsBackward (a :: rest)
  | [b] => [[b]]
  | [] => []

/-- The units of a text, read from the right. -/
def unitsFromEnd (t : Text) : List Text := (unitsBackward t.reverse).reverse

/-- The indices at which two-point units start when the first unit of the list
starts at the given index. -/
def pairStarts (start : Nat) : List Text → List Nat
  | [] => []
  | u :: rest =>
    if u.length = 2 then start :: pairStarts (start + u.length) rest
    else pairStarts (start + u.length) rest

/-- The indices at which a list of units may be cut without splitting one. -/
def boundaries (start : Nat) : List Text → List Nat
  | [] => [start]
  | u :: rest => start :: boundaries (start + u.length) rest

/-- The units read from the left make up the text. -/
theorem flatten_unitsFromStart (t : Text) : (unitsFromStart t).flatten = t := by
  fun_induction unitsFromStart t with
  | case1 a b rest h ih => simp only [List.flatten_cons, ih, List.cons_append, List.nil_append]
  | case2 a b rest h ih => simp only [List.flatten_cons, ih, List.cons_append, List.nil_append]
  | case3 a => rfl
  | case4 => rfl

end LenientText.Text
