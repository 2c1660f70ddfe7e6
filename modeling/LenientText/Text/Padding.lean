import LenientText.Text.Size

/-!
# Padding a text to a least length

A text shorter than asked for is completed with copies of another text, mostly a single
code point, before it or behind it. The least length is any integer. What is limited is
the number of copies and the length of the result, not the least length itself.
-/

namespace LenientText.Text

/-- How many code points a text lacks to a least length. -/
def lack (t : Text) (minLength : Int) : Nat := (minLength - t.length).toNat

/-- So many copies of a text, one after the other. A number that is not positive is none. -/
def filler (capacity : Nat) (t : Text) (count : Int) : Except Shortage Text :=
  if maxLength < count then .error .beyondIndex
  else if maxLength < t.length * count.toNat then .error .beyondRepetition
  else if capacity < t.length * count.toNat then .error .beyondMemory
  else .ok (List.replicate count.toNat t).flatten

/-- One text with another one behind it. An empty one takes no room. -/
def joined (capacity : Nat) (t u : Text) : Except Shortage Text :=
  if t.isEmpty || u.isEmpty then .ok (t ++ u)
  else if maxLength < t.length + u.length then .error .beyondConcatenation
  else if capacity < t.length + u.length then .error .beyondMemory
  else .ok (t ++ u)

/-- A text that is long enough lacks nothing. -/
theorem lack_eq_zero_iff (t : Text) (minLength : Int) :
    lack t minLength = 0 ↔ minLength ≤ t.length := by
  unfold lack
  omega

end LenientText.Text
