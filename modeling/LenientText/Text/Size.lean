import LenientText.Text.Basic

/-!
# How long a text may become

Two bounds limit the texts that can be made. Lengths are signed 64-bit indices,
which bounds every text; and the memory at hand bounds the texts of one session.
Both are compared with exact natural numbers before anything is built.
-/

namespace LenientText

/-- Why a text of some length is not made. -/
inductive Shortage where
  /-- The number of copies is no index. -/
  | beyondIndex
  /-- The number of copies is an index, but the length of all of them is none. -/
  | beyondRepetition
  /-- Two texts have lengths that are indices, but not the length of both together. -/
  | beyondConcatenation
  /-- The length is an index, but memory does not hold such a text. -/
  | beyondMemory
deriving DecidableEq, Repr

namespace Text

/-- The greatest length of a text, the greatest signed 64-bit integer. -/
abbrev maxLength : Nat := 0x7FFFFFFFFFFFFFFF

end Text

end LenientText
