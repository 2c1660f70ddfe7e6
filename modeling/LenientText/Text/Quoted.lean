import LenientText.Number.Numeral
import LenientText.Text.Printable

/-!
# Quoted texts and bytes

A quoted text stands between single quotes, or between double quotes if it holds
single quotes and no double ones. The quote in use and the backslash are escaped
by a backslash, tab, newline and return by their letters, and every other code
point that is not printable by its number. Quoted bytes follow the same rules,
begin with the letter b, and show every byte beyond ASCII by its number.
-/

namespace LenientText.Quoted

/-- The single quote. -/
abbrev single : Nat := 0x27

/-- The double quote. -/
abbrev double : Nat := 0x22

/-- The backslash. -/
abbrev backslash : Nat := 0x5c

/-- The quote to put around a text. -/
def delimiter (t : Text) : Nat :=
  if t.contains single && !t.contains double then double else single

/-- The escape of a code point by its number, in the shortest form that has room
for it. -/
def byNumber (c : Nat) : Text :=
  if c ≤ 0xff then backslash :: Text.point 'x' :: Numeral.hexOfWidth 2 c
  else if c ≤ 0xffff then backslash :: Text.point 'u' :: Numeral.hexOfWidth 4 c
  else backslash :: Text.point 'U' :: Numeral.hexOfWidth 8 c

/-- A code point inside quotes, where `isShown` tells those that stand for
themselves. -/
def escape (isShown : Nat → Bool) (quote c : Nat) : Text :=
  if c = quote ∨ c = backslash then [backslash, c]
  else if c = 0x09 then [backslash, Text.point 't']
  else if c = 0x0a then [backslash, Text.point 'n']
  else if c = 0x0d then [backslash, Text.point 'r']
  else if isShown c then [c]
  else byNumber c

/-- A text in quotes. -/
def text (t : Text) : Text :=
  let quote := delimiter t
  quote :: t.flatMap (escape Text.isPrintable quote) ++ [quote]

/-- Whether a byte is shown as its ASCII character. -/
def isShownByte (b : Nat) : Bool := 0x20 ≤ b && b < 0x7f

/-- Bytes in quotes. -/
def bytes (bs : List Nat) : Text :=
  let quote := delimiter bs
  Text.point 'b' :: quote :: bs.flatMap (escape isShownByte quote) ++ [quote]

end LenientText.Quoted
