import LenientText.Text.Basic

/-!
# Blank code points

Around a number stand blanks: tab to carriage return, the space, and the spaces
and separators beyond the first 128 code points. The separators U+001C to U+001F
are not among them, nor is the zero-width space.
-/

namespace LenientText.Text

/-- Whether a code point is skipped around a number. -/
def isBlank (c : Nat) : Bool :=
  (0x09 ≤ c && c ≤ 0x0d) || c == 0x20 || c == 0x85 || c == 0xa0 || c == 0x1680 ||
    (0x2000 ≤ c && c ≤ 0x200a) || c == 0x2028 || c == 0x2029 || c == 0x202f || c == 0x205f ||
    c == 0x3000

end LenientText.Text
