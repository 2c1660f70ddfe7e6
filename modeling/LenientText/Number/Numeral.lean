import LenientText.Text.Basic

/-!
# Numerals in a base

A natural number is written with its digits in a base, most significant first,
without leading zeros; zero is written with one digit. Digits above nine are
small letters. Reading a list of digits gives the number back.
-/

namespace LenientText.Numeral

/-- The digits of a number in a base, most significant first. Below base two a
number is its own digit. -/
def digits (base n : Nat) : List Nat :=
  if _h : base < 2 ∨ n < base then [n] else digits base (n / base) ++ [n % base]
termination_by n
decreasing_by exact Nat.div_lt_self (by omega) (by omega)

/-- The number with the given digits in a base. -/
def value (base : Nat) (ds : List Nat) : Nat := ds.foldl (fun n d => n * base + d) 0

/-- The code point of a digit, a letter from ten on. -/
def glyph (d : Nat) : Nat := if d < 10 then 0x30 + d else 0x57 + d

/-- A number written in a base. -/
def text (base n : Nat) : Text := (digits base n).map glyph

/-- A number written in base sixteen with small letters. -/
abbrev hex (n : Nat) : Text := text 16 n

/-- A number written in base sixteen, completed with zeros to a width. -/
def hexOfWidth (width n : Nat) : Text :=
  Text.copies (width - (hex n).length) 0x30 ++ hex n

/-- Reading the digits of a number gives the number. -/
theorem value_digits (base n : Nat) : value base (digits base n) = n := by
  fun_induction digits base n with
  | case1 n h => simp only [value, List.foldl_cons, List.foldl_nil, Nat.zero_mul, Nat.zero_add]
  | case2 n h ih =>
    unfold value at ih
    rw [value, List.foldl_append, ih]
    simp only [List.foldl_cons, List.foldl_nil]
    rw [Nat.mul_comm]
    exact Nat.div_add_mod n base

/-- In a base of two or more every digit is below the base. -/
theorem digit_lt {base : Nat} (hb : 2 ≤ base) (n : Nat) : ∀ d ∈ digits base n, d < base := by
  fun_induction digits base n with
  | case1 n h =>
    intro d hd
    have he := List.mem_singleton.1 hd
    omega
  | case2 n h ih =>
    intro d hd
    rcases List.mem_append.1 hd with hd | hd
    · exact ih d hd
    · have he := List.mem_singleton.1 hd
      rw [he]
      exact Nat.mod_lt n (by omega)

/-- A number has a digit. -/
theorem digits_ne_nil (base n : Nat) : digits base n ≠ [] := by
  rw [digits]
  split
  · simp only [ne_eq, List.cons_ne_self, not_false_eq_true]
  · simp only [ne_eq, List.append_eq_nil_iff, List.cons_ne_self, and_false, not_false_eq_true]

end LenientText.Numeral
