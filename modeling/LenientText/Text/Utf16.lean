import LenientText.Text.Surrogate

/-!
# UTF-16 code units

The encoding replaces every supplementary code point by its surrogate pair and
keeps every other code point. It is defined for all texts; it is meant for those
without surrogates, from which it can be undone.
-/

namespace LenientText.Text

/-- The first code point that needs a pair. -/
abbrev supplementaryMin : Nat := 0x10000

/-- The code units of one code point. -/
def codeUnits (c : Nat) : Text :=
  if c < supplementaryMin then [c]
  else [highMin + (c - supplementaryMin) / 0x400, lowMin + (c - supplementaryMin) % 0x400]

/-- The code units of a text. -/
def utf16 (t : Text) : Text := t.flatMap codeUnits

/-- A text of scalar values: no surrogate, and nothing beyond U+10FFFF. -/
def IsScalar (t : Text) : Prop := ∀ c ∈ t, isSurrogate c = false ∧ c ≤ 0x10FFFF

/-- Encoding is done code point by code point. -/
theorem utf16_append (s t : Text) : utf16 (s ++ t) = utf16 s ++ utf16 t := by
  simp only [utf16, List.flatMap_append]

end LenientText.Text
