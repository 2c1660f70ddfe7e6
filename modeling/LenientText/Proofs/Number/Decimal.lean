import LenientText.Number.Integer
import LenientText.Proofs.Number.Reading
import Mathlib.Algebra.Group.Nat.Defs

/-!
# Decimals are the usual ones

A number written in base ten is the text in which numbers are usually printed. It is written
if it has no more digits than the limit, sign aside, and no two numbers are written alike.
-/

namespace LenientText

namespace Numeral

/-- Below ten the code point of a digit is that of the usual character. -/
theorem glyph_eq_digitChar {d : Nat} (h : d < 10) : glyph d = d.digitChar.toNat := by
  rw [glyph, if_pos h, Nat.toNat_digitChar_of_lt_ten h]

/-- The digits in base ten are the usual ones. -/
theorem text_ten (n : Nat) : text 10 n = (Nat.toDigits 10 n).map Char.toNat := by
  unfold text
  fun_induction digits 10 n with
  | case1 n hsmall =>
    have hn : n < 10 := by omega
    rw [Nat.toDigits_of_lt_base hn, List.map_singleton, List.map_singleton, glyph_eq_digitChar hn]
  | case2 n hlarge ih =>
    have hdigit : n % 10 < 10 := Nat.mod_lt n (by omega)
    rw [Nat.toDigits_of_base_le (by omega) (by omega), List.map_append, List.map_append, ih,
      List.map_singleton, List.map_singleton, glyph_eq_digitChar hdigit]

end Numeral

namespace Integer

/-- The decimal text of a natural number is the one in which it is usually printed. -/
theorem decimal_natCast (n : Nat) : decimal n = .ofString (toString n) := by
  have hsign : ¬(n : Int) < 0 := by omega
  have hprinted : (toString n).toList = Nat.toDigits 10 n := by
    change (String.ofList (Nat.toDigits 10 n)).toList = _
    rw [String.toList_ofList]
  rw [decimal, if_neg hsign, Int.natAbs_natCast, Numeral.text_ten, Text.ofString, hprinted]

/-- The decimal text of an integer is the one in which it is usually printed. -/
theorem decimal_eq_ofString (n : Int) : decimal n = .ofString (toString n) := by
  cases n with
  | ofNat k => exact decimal_natCast k
  | negSucc k =>
    have hpositive : Numeral.text 10 (k + 1) = .ofString (toString (k + 1)) := by
      have hsign : ¬((k + 1 : Nat) : Int) < 0 := by omega
      have hdecimal := decimal_natCast (k + 1)
      rw [decimal, if_neg hsign, Int.natAbs_natCast] at hdecimal
      exact hdecimal
    have hprinted : (toString (Int.negSucc k)).toList = '-' :: (toString (k + 1)).toList :=
      String.toList_append
    rw [decimal, if_pos (Int.negSucc_lt_zero k), Int.natAbs_negSucc, Nat.succ_eq_add_one,
      hpositive, Text.ofString, Text.ofString, hprinted, List.map_cons]
    rfl

/-- An integer is written if it is below the least one with too many digits. -/
theorem isWritable_iff_lt (n : Int) : isWritable n = true ↔ n.natAbs < 10 ^ maxDigits := by
  rw [isWritable, decide_eq_true_eq, Nat.pow_eq]

/-- An integer is written if it has no more digits than are written at most. -/
theorem isWritable_iff_length_le (n : Int) :
    isWritable n = true ↔ (Nat.toDigits 10 n.natAbs).length ≤ maxDigits := by
  rw [isWritable_iff_lt]
  exact (Nat.length_toDigits_le_iff (by decide) (by decide)).symm

/-- There is no sign among the digits of a number. -/
theorem sign_not_mem (n : Nat) : 0x2d ∉ Numeral.text 10 n := by
  intro hmem
  obtain ⟨d, -, hd⟩ := List.mem_map.mp hmem
  unfold Numeral.glyph at hd
  split at hd <;> omega

/-- No two integers have the same decimal text. -/
theorem decimal_injective {m n : Int} (h : decimal m = decimal n) : m = n := by
  have htext : ∀ {j k : Nat}, Numeral.text 10 j = Numeral.text 10 k → j = k := by
    intro j k hjk
    have hread : Numeral.read? 10 (Numeral.text 10 j) = some j :=
      Numeral.read?_text (by decide) (by decide) j
    rw [hjk, Numeral.read?_text (by decide) (by decide)] at hread
    exact (Option.some.inj hread).symm
  unfold decimal at h
  by_cases hm : m < 0
  · by_cases hn : n < 0
    · rw [if_pos hm, if_pos hn, List.cons.injEq] at h
      have habs := htext h.2
      omega
    · rw [if_pos hm, if_neg hn] at h
      have hmem : 0x2d ∈ Numeral.text 10 n.natAbs := by
        rw [← h]
        exact List.mem_cons_self
      exact absurd hmem (sign_not_mem n.natAbs)
  · by_cases hn : n < 0
    · rw [if_neg hm, if_pos hn] at h
      have hmem : 0x2d ∈ Numeral.text 10 m.natAbs := by
        rw [h]
        exact List.mem_cons_self
      exact absurd hmem (sign_not_mem m.natAbs)
    · rw [if_neg hm, if_neg hn] at h
      have habs := htext h
      omega

end Integer

end LenientText
