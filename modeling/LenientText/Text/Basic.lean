/-!
# Texts as sequences of code points

A text is a finite sequence of code points. Surrogate code points are ordinary
members of a text, also where a high one stands before a low one: the two are
never merged, and the length of a text counts both. Validity of a code point as
a scalar value is therefore nowhere assumed, and every operation of this library
is defined for all sequences.
-/

namespace LenientText

/-- A sequence of code points, each a natural number, surrogates included. -/
abbrev Text := List Nat

namespace Text

/-- The code points of a string of scalar values. -/
def ofString (s : String) : Text := s.toList.map Char.toNat

/-- The code point of a character. -/
abbrev point (c : Char) : Nat := c.toNat

/-- The full stop, which stands between the parts of dotted names. -/
abbrev dot : Nat := 0x2e

/-- The texts in order, with the separator between neighbours. -/
def join (separator : Text) (ts : List Text) : Text :=
  (ts.intersperse separator).flatten

/-- As many copies of one code point as asked for. -/
abbrev copies (n : Nat) (c : Nat) : Text := List.replicate n c

/-- Where a bound lies in a sequence of a length. A negative one counts from the end. -/
def boundIn (length : Nat) (i : Int) : Nat := if i < 0 then (i + length).toNat else i.toNat

/-- The part of a text from one bound up to another, or up to the end. -/
def slice (t : Text) (start : Int) (stop? : Option Int) : Text :=
  (t.take ((stop?.map (boundIn t.length)).getD t.length)).drop (boundIn t.length start)

/-- The part between two bounds that do not count from the end. -/
@[simp] theorem slice_natCast (t : Text) (start stop : Nat) :
    t.slice start (some (stop : Int)) = (t.take stop).drop start := by
  simp only [slice, boundIn, Option.map_some, Option.getD_some, Int.toNat_natCast,
    Int.not_ofNat_neg, if_false]

/-- The part from such a bound up to the end. -/
@[simp] theorem slice_natCast_none (t : Text) (start : Nat) :
    t.slice start none = t.drop start := by
  simp only [slice, boundIn, Option.map_none, Option.getD_none, Int.toNat_natCast,
    Int.not_ofNat_neg, if_false, List.take_length]

/-- The parts of a text between the occurrences of a separating code point.
There is always one part more than there are separators. -/
def parts (separator : Nat) : Text → List Text
  | [] => [[]]
  | c :: rest =>
    if c = separator then [] :: parts separator rest
    else match parts separator rest with
      | [] => [[c]]
      | first :: others => (c :: first) :: others

/-- The first part of a text exists, also when it is empty. -/
theorem parts_ne_nil (separator : Nat) (t : Text) :
    parts separator t ≠ [] := by
  cases t with
  | nil => simp only [parts, ne_eq, not_false_eq_true, List.cons_ne_self]
  | cons c rest =>
    simp only [parts]
    split
    · simp only [ne_eq, reduceCtorEq, not_false_eq_true]
    · split <;> simp only [ne_eq, reduceCtorEq, not_false_eq_true]

/-- A text is split into one part more than it holds separators. -/
theorem length_parts (separator : Nat) (t : Text) :
    (parts separator t).length = t.count separator + 1 := by
  induction t with
  | nil => rfl
  | cons c rest ih =>
    simp only [parts]
    by_cases h : c = separator
    · subst h
      simp only [↓reduceIte, List.length_cons, ih, List.count_cons_self]
    · rw [if_neg h, List.count_cons_of_ne h, ← ih]
      split
      · next hnil => exact absurd hnil (parts_ne_nil separator rest)
      · next first others hcons => simp only [hcons, List.length_cons]

end Text

end LenientText
