import LenientText.Text.Basic

/-!
# Texts cut to a number of bytes

Messages hold only so many bytes of a name in UTF-8. A code point that does not
fit as a whole is replaced by the replacement character, and nothing follows it.
-/

namespace LenientText.Text

/-- How many bytes a code point takes in UTF-8. -/
def utf8Length (c : Nat) : Nat :=
  if c < 0x80 then 1 else if c < 0x800 then 2 else if c < 0x10000 then 3 else 4

/-- How many bytes a text takes in UTF-8. -/
def utf8Size (t : Text) : Nat := (t.map utf8Length).foldr (· + ·) 0

/-- A text cut to so many bytes. -/
def takeBytes : Nat → Text → Text
  | _, [] => []
  | 0, _ => []
  | bytes, c :: rest =>
    if utf8Length c ≤ bytes then c :: takeBytes (bytes - utf8Length c) rest else [0xfffd]

end LenientText.Text
