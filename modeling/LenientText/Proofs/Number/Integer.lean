import LenientText.Proofs.Number.Decimal
import LenientText.Proofs.Text.Parts
import Mathlib.Data.List.TakeWhile
import Mathlib.Data.Nat.Digits.Defs

/-!
# Decimals are read back

The decimal of an integer consists of digits and perhaps a sign, all of them of the first
script, so reading meets neither blanks nor underscores in it and gives the integer back.
Many other texts are read as the same integer: with leading zeros, a plus sign, blanks
around, underscores between digits, or digits of other scripts. Whatever is read, it has
no more digits than the numeral, and so no more than are written.
-/

namespace LenientText

namespace Numeral

/-- The number with the given digits is the usual one, which counts from the last digit. -/
theorem value_eq_ofDigits (base : Nat) (ds : List Nat) :
    value base ds = Nat.ofDigits base ds.reverse := by
  rw [value, List.foldl_eq_foldr_reverse, Nat.ofDigits_eq_foldr]
  simp only [Nat.cast_id, Nat.add_comm, Nat.mul_comm]

/-- A number is below the power of the base that has one zero for each of its digits. -/
theorem value_lt_pow_length {base : Nat} {ds : List Nat} (hb : 1 < base)
    (h : ∀ d ∈ ds, d < base) : value base ds < base ^ ds.length := by
  rw [value_eq_ofDigits, ← List.length_reverse]
  exact Nat.ofDigits_lt_base_pow_length hb fun d hd => h d (List.mem_reverse.mp hd)

end Numeral

namespace Integer

variable {n : Int} {c d : Nat} {t : Text}

/-- The first script has its digits where the glyphs of digits are. -/
theorem digitValue?_glyph (h : d < 10) : Text.digitValue? (Numeral.glyph d) = some d := by
  have hglyph : Numeral.glyph d = 0x30 + d := if_pos h
  have hfirst : (fun z => decide (z ≤ 0x30 + d) && decide (0x30 + d < z + 10)) 0x30 = true := by
    rw [Bool.and_eq_true, decide_eq_true_eq, decide_eq_true_eq]
    omega
  rw [hglyph, Text.digitValue?, Text.zeros,
    List.find?_cons_of_pos (p := fun z => decide (z ≤ 0x30 + d) && decide (0x30 + d < z + 10))
      hfirst,
    Option.map_some, Nat.add_sub_cancel_left]

/-- The digits of a number are digits of the first script. -/
theorem exists_glyph_of_mem {k : Nat} (h : c ∈ Numeral.text 10 k) :
    ∃ d, d < 10 ∧ Numeral.glyph d = c ∧ c = 0x30 + d := by
  obtain ⟨d, hd, rfl⟩ := List.mem_map.mp h
  have hlt : d < 10 := Numeral.digit_lt (by decide) k d hd
  exact ⟨d, hlt, rfl, if_pos hlt⟩

/-- A number has a digit. -/
theorem text_ne_nil (k : Nat) : Numeral.text 10 k ≠ [] := by
  intro hnil
  exact Numeral.digits_ne_nil 10 k (List.map_eq_nil_iff.mp hnil)

/-- All digits of a number may stand between the sign and the end of a numeral. -/
theorem isBody_of_mem {k : Nat} (h : c ∈ Numeral.text 10 k) : isBody c = true := by
  obtain ⟨d, hd, rfl, -⟩ := exists_glyph_of_mem h
  rw [isBody, digitValue?_glyph hd, Option.isSome_some, Bool.or_true]

/-- The glyphs of digits have the values of these digits. -/
theorem filterMap_digitValue?_map_glyph {ds : List Nat} (h : ∀ d ∈ ds, d < 10) :
    (ds.map Numeral.glyph).filterMap Text.digitValue? = ds := by
  induction ds with
  | nil => rfl
  | cons d ds ih =>
    rw [List.forall_mem_cons] at h
    rw [List.map_cons, List.filterMap_cons_some (digitValue?_glyph h.1), ih h.2]

/-- The digits of a number have the values from which it was written. -/
theorem filterMap_digitValue?_text (k : Nat) :
    (Numeral.text 10 k).filterMap Text.digitValue? = Numeral.digits 10 k :=
  filterMap_digitValue?_map_glyph (Numeral.digit_lt (by decide) k)

/-- There are as many digits as in the usual decimal. -/
theorem length_digits (k : Nat) : (Numeral.digits 10 k).length = (Nat.toDigits 10 k).length := by
  have h := congrArg List.length (Numeral.text_ten k)
  rwa [Numeral.text, List.length_map, List.length_map] at h

/-- The digits of a number hold no underscore. -/
theorem isWellJoined_text (k : Nat) : isWellJoined (Numeral.text 10 k) = true := by
  have hnone : 0x5f ∉ Numeral.text 10 k := by
    intro hmem
    obtain ⟨d, hd, -, hc⟩ := exists_glyph_of_mem hmem
    omega
  rw [isWellJoined, Text.parts_of_not_mem hnone, List.all_cons, List.all_nil, Bool.and_true]
  exact Bool.not_eq_true' _ ▸ List.isEmpty_eq_false_iff.mpr (text_ne_nil k)

/-- The sign of a decimal is told from its digits. -/
theorem takeSign_decimal (n : Int) :
    takeSign ((decimal n).dropWhile Text.isBlank) = (decide (n < 0), Numeral.text 10 n.natAbs) := by
  by_cases hsign : n < 0
  · have hminus : ¬Text.isBlank 0x2d = true := by decide
    rw [decimal, if_pos hsign, List.dropWhile_cons_of_neg hminus, takeSign, if_pos rfl,
      decide_eq_true hsign]
  · rw [decimal, if_neg hsign, decide_eq_false hsign]
    cases htext : Numeral.text 10 n.natAbs with
    | nil => exact absurd htext (text_ne_nil n.natAbs)
    | cons c rest =>
      have hmem : c ∈ Numeral.text 10 n.natAbs := by
        rw [htext]
        exact List.mem_cons_self
      obtain ⟨d, hd, -, hc⟩ := exists_glyph_of_mem hmem
      have hblank : ¬Text.isBlank c = true := by
        simp only [Text.isBlank, Bool.or_eq_true, Bool.and_eq_true, decide_eq_true_eq, beq_iff_eq]
        omega
      rw [List.dropWhile_cons_of_neg hblank, takeSign, if_neg (by omega), if_neg (by omega)]

/-- A numeral of no more digits than are read, without anything behind it, is read as the
number with its digits. -/
theorem read_of_isWellJoined {negative : Bool} {body : Text}
    (hsign : takeSign (t.dropWhile Text.isBlank) = (negative, body))
    (hbody : ∀ c ∈ body, isBody c = true) (hjoined : isWellJoined body = true)
    (hlength : (body.filterMap Text.digitValue?).length ≤ maxDigits) :
    read t = .ok (if negative then -(Numeral.value 10 (body.filterMap Text.digitValue?) : Int)
      else Numeral.value 10 (body.filterMap Text.digitValue?)) := by
  have htake : body.takeWhile isBody = body := List.takeWhile_eq_self_iff.mpr hbody
  have hdrop : body.dropWhile isBody = [] := List.dropWhile_eq_nil_iff.mpr hbody
  rw [read, hsign]
  dsimp only
  rw [htake, hdrop, hjoined, if_neg (by decide), if_neg (by omega), List.all_nil,
    if_neg (by decide)]

/-- The decimal of an integer that is written is read as this integer. -/
theorem read_decimal (h : isWritable n = true) : read (decimal n) = .ok n := by
  have hlength : ((Numeral.text 10 n.natAbs).filterMap Text.digitValue?).length ≤ maxDigits := by
    rw [filterMap_digitValue?_text, length_digits]
    exact (isWritable_iff_length_le n).mp h
  rw [read_of_isWellJoined (takeSign_decimal n) (fun c hc => isBody_of_mem hc)
    (isWellJoined_text n.natAbs) hlength, filterMap_digitValue?_text, Numeral.value_digits]
  by_cases hsign : n < 0
  · rw [decide_eq_true hsign, if_pos rfl]
    exact congrArg Except.ok (by omega)
  · rw [decide_eq_false hsign, if_neg Bool.false_ne_true]
    exact congrArg Except.ok (by omega)

/-- An integer that is read has no more digits than are written. -/
theorem isWritable_of_read (h : read t = .ok n) : isWritable n = true := by
  unfold read at h
  split at h
  next negative unsigned hsign =>
  dsimp only at h
  split at h
  · cases h
  split at h
  · cases h
  next hlength =>
  split at h
  · cases h
  have hdigit : ∀ d ∈ (unsigned.takeWhile isBody).filterMap Text.digitValue?, d < 10 := by
    intro d hd
    obtain ⟨c, -, hc⟩ := List.mem_filterMap.mp hd
    exact Text.digitValue?_lt hc
  have hvalue := Numeral.value_lt_pow_length (by decide) hdigit
  have hpow : 10 ^ ((unsigned.takeWhile isBody).filterMap Text.digitValue?).length ≤
      10 ^ maxDigits := Nat.pow_le_pow_right (by decide) (Nat.le_of_not_lt hlength)
  have habs : n.natAbs =
      Numeral.value 10 ((unsigned.takeWhile isBody).filterMap Text.digitValue?) := by
    rw [← Except.ok.inj h]
    split
    · rw [Int.natAbs_neg, Int.natAbs_natCast]
    · rw [Int.natAbs_natCast]
  refine (isWritable_iff_lt n).mpr ?_
  rw [habs]
  exact Nat.lt_of_lt_of_le hvalue hpow

end Integer

end LenientText
