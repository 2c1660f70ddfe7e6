import LenientText.Proofs.Guarded.Arguments
import LenientText.Proofs.Lenient.Filling
import LenientText.Proofs.Number.Decimal
import LenientText.Proofs.Text.Doubling
import Mathlib.Algebra.Group.Nat.Defs

/-!
# Repeating text objects

For a text and a count that is not negative, repetition compares the exact length of
the copies with the greatest index, and only then makes them. What is too long is
reported by a fault of its own, whose message gives the length in decimal. A length with
more digits than are written has no such message, and another fault takes its place.
-/

namespace LenientText.Guarded

open Run

variable {check : Checker} {s : Session} {o c : Obj} {t : Text} {n : Nat}

/-- The part of a text from its start up to an index. -/
theorem slice_zero (t : Text) (k : Nat) : t.slice 0 (some k) = t.take k := Text.slice_natCast t 0 k

/-- Two copies or more of a text are made by doubling it. -/
theorem run_copiesOf (ho : s.store.IsText o t) (hn : 2 ≤ n) :
    (copiesOf o (t.length * n : Nat)).run s = (.ok (.text (Text.repeated t n)), s) := by
  have hempty : t.length = 0 → t.length * n = 0 := by
    intro ht
    rw [ht, Nat.zero_mul]
  have hlength : (t.length : Int) < (t.length * n : Nat) - (t.length : Int) ↔
      0 < t.length ∧ t.length < t.length * n - t.length := by
    omega
  rw [copiesOf, run_bind_of_ok (run_lengthOf_of_isText ho),
    run_bind_of_ok (run_lengthOf_of_isText ho), Text.repeated_eq_doubled_append t hn]
  dsimp only
  by_cases hround : 0 < t.length ∧ t.length < t.length * n - t.length
  · have ht : t ≠ [] := List.length_pos_iff.mp hround.1
    have hle : (Text.doubled (t.length * n) t).length ≤ t.length * n := by
      obtain ⟨m, hm, hmn, -⟩ := Text.exists_doubled_eq_times (k := 1) (n := n) ht (by omega)
        (by omega)
      rw [Text.times_one] at hm
      rw [hm, Text.length_times]
      exact Nat.mul_le_mul_left _ hmn
    rw [if_pos (hlength.mpr hround), run_bind_of_ok (run_textOrFault_of_isText ho _),
      List.isEmpty_eq_false_iff.mpr ht, Int.toNat_natCast, ← Text.doubled_step hround,
      ← Int.natCast_sub hle, slice_zero]
    rfl
  · have hle : t.length ≤ t.length * n := Nat.le_mul_of_pos_right _ (by omega)
    have hpart := run_partOf_of_cutsPlainly ho.isTakenPlainly.cutsPlainly 0
      (some (t.length * n - t.length : Nat))
    rw [ho.plain_eq, slice_zero] at hpart
    rw [if_neg (hlength.not.mpr hround), run_bind_of_ok (run_lengthOf_of_isText ho),
      Text.doubled_of_not hround, ← Int.natCast_sub hle]
    exact (run_bind_of_ok hpart).trans ((run_bind_of_ok (run_textOrFault_of_isText ho _)).trans rfl)

/-- None and one are given before any length is looked at. All other copies are made if
their length is an index and memory holds them. -/
theorem run_repetition (hcheck : check.IsSound) (ho : s.store.IsText o t)
    (hc : s.store.IsInteger c n) :
    (repetition check o c).run s =
      (if n = 0 then .ok (.text [])
      else if n = 1 then .ok (.object o)
      else if Text.maxLength < t.length * n then .error (.fault (oversize (t.length * n)))
      else if s.capacity < t.length * n then .error (.fault (.shortage .beyondMemory))
      else .ok (.text (Text.repeated t n)), s) := by
  have hget : (get : Run Session).run s = (.ok s, s) := rfl
  have hcount : decide ((0 : Int) ≤ n) = true := decide_eq_true (by omega)
  have hsize : (t.length : Int) * (n : Int) = (t.length * n : Nat) := (Int.natCast_mul _ _).symm
  rw [repetition,
    run_bind_of_ok (hcheck.run_textOrNull_of_isText ho),
    run_bind_of_ok (hcheck.run_integer_of_isInteger hc),
    run_bind_of_ok (run_demandPresent_of_isText ho _),
    run_bind_of_ok (run_ordered_of_isInteger hc _ _ _),
    run_bind_of_ok (hcheck.run_boolean _ s), run_bind_of_ok (run_truthOf_bool _ s), hcount,
    run_bind_of_ok (run_require_true _ _), run_bind_of_ok (run_equalsInteger_of_isInteger hc 0)]
  by_cases hzero : n = 0
  · rw [if_pos hzero, if_pos (decide_eq_true (by omega))]
    rfl
  rw [if_neg hzero, if_neg (by rw [decide_eq_true_iff]; omega),
    run_bind_of_ok (run_equalsInteger_of_isInteger hc 1)]
  by_cases hone : n = 1
  · rw [if_pos hone, if_pos (decide_eq_true (by omega))]
    exact run_bind_of_ok (hcheck.run_deliver_text_of_isText ho)
  rw [if_neg hone, if_neg (by rw [decide_eq_true_iff]; omega),
    run_bind_of_ok (run_lengthOf_of_isText ho),
    run_bind_of_ok (run_wholeNumberOf_of_isInteger hc _)]
  dsimp only
  rw [hsize, Int.toNat_natCast]
  by_cases hlong : Text.maxLength < t.length * n
  · rw [if_pos hlong, if_pos (Int.ofNat_lt.mpr hlong)]
    rfl
  rw [if_neg hlong, if_neg (by omega), run_bind_of_ok hget]
  by_cases hroom : s.capacity < t.length * n
  · rw [if_pos hroom, if_pos (Int.ofNat_lt.mpr hroom)]
    rfl
  · rw [if_neg hroom, if_neg (by omega)]
    exact run_copiesOf ho (by omega)

/-- Copies of a text whose length is an index and fits into memory are given, and they are
plain copies. The loop that makes them ends. -/
theorem exists_run_repetition_eq_copies (hcheck : check.IsSound) (ho : s.store.IsText o t)
    (hc : s.store.IsInteger c n) (hsize : t.length * n ≤ Text.maxLength)
    (hroom : t.length * n ≤ s.capacity) :
    Text.Rounds (t.length * n) t (Text.doublings (t.length * n) t) ∧
      ∃ r, (repetition check o c).run s = (.ok r, s) ∧
        s.store.Shows r (List.replicate n t).flatten := by
  have hempty : t = [] → t.length * n = 0 := by
    intro ht
    rw [ht, List.length_nil, Nat.zero_mul]
  have hcopies : (List.replicate n t).flatten = Text.repeated t n :=
    (Text.repeated_eq_times t n).symm
  refine ⟨Text.rounds_doublings hempty, ?_⟩
  rw [run_repetition hcheck ho hc, hcopies]
  by_cases hzero : n = 0
  · subst hzero
    exact ⟨_, rfl, rfl⟩
  rw [if_neg hzero]
  by_cases hone : n = 1
  · subst hone
    exact ⟨_, rfl, ho⟩
  rw [if_neg hone, if_neg (by omega), if_neg (by omega)]
  exact ⟨_, rfl, rfl⟩

/-- A session with two texts, one of them empty, and with counts just above the half of the
greatest index and beyond all integers that are written. -/
def vastSession : Session :=
  { Session.start 0 with
    store := ⟨#[⟨.known .text, .text [0x61, 0xDE00]⟩, ⟨.known .text, .text []⟩,
      ⟨.known .integer, .integer 5⟩, ⟨.known .integer, .integer (2 ^ 62 : Nat)⟩,
      ⟨.known .integer, .integer (10 ^ Integer.maxDigits : Nat)⟩]⟩ }

/-- Five copies of two code points, one of them half a pair, take two rounds and a rest. -/
theorem exists_run_repetition_eq_copies_five :
    Text.Rounds 10 [0x61, 0xDE00] (Text.doublings 10 [0x61, 0xDE00]) ∧
      ∃ r, (repetition .strict (.cell 0) (.cell 2)).run vastSession = (.ok r, vastSession) ∧
        vastSession.store.Shows r
          [0x61, 0xDE00, 0x61, 0xDE00, 0x61, 0xDE00, 0x61, 0xDE00, 0x61, 0xDE00] := by
  have hpair : vastSession.store.IsText (.cell 0) [0x61, 0xDE00] := Store.isText_of_entity rfl
  have hfive : vastSession.store.IsInteger (.cell 2) (5 : Nat) := Store.isInteger_of_entity rfl
  exact exists_run_repetition_eq_copies Checker.isSound_strict hpair hfive (by decide) (by decide)

/-- A length is written if it has no more digits than are written at most. -/
theorem isWritable_natCast (length : Nat) :
    Integer.isWritable length = true ↔ length < 10 ^ Integer.maxDigits := by
  rw [Integer.isWritable_iff_lt, Int.natAbs_natCast]

/-- A length that is written is reported. -/
theorem oversize_of_lt {length : Nat} (h : length < 10 ^ Integer.maxDigits) :
    oversize length = .oversize length := by
  rw [oversize, if_pos ((isWritable_natCast length).mpr h)]

/-- A length with more digits than are written is not reported. -/
theorem oversize_of_le {length : Nat} (h : 10 ^ Integer.maxDigits ≤ length) :
    oversize length = .unwritable := by
  have hlong : ¬Integer.isWritable length = true := by
    rw [isWritable_natCast]
    exact Nat.not_lt_of_le h
  rw [oversize, if_neg hlong]

/-- The length after every index is written too. -/
theorem maxLength_succ_lt_pow_maxDigits : Text.maxLength + 1 < 10 ^ Integer.maxDigits := by
  have hdigits : 19 ≤ Integer.maxDigits := by decide
  have hpow : 10 ^ 19 ≤ 10 ^ Integer.maxDigits := Nat.pow_le_pow_right (by decide) hdigits
  exact Nat.lt_of_lt_of_le (by decide) hpow

/-- Copies that would be too long are not made, whatever memory holds. -/
theorem run_repetition_of_lt (hcheck : check.IsSound) (ho : s.store.IsText o t)
    (hc : s.store.IsInteger c n) (ht : t.length ≤ Text.maxLength)
    (hsize : Text.maxLength < t.length * n) :
    (repetition check o c).run s = (.error (.fault (oversize (t.length * n))), s) := by
  have hzero : n ≠ 0 := by
    rintro rfl
    omega
  have hone : n ≠ 1 := by
    rintro rfl
    omega
  rw [run_repetition hcheck ho hc, if_neg hzero, if_neg hone, if_pos hsize]

/-- Copies of a text, which itself has an index for its length, end in one of three ways.
They are given if their length is an index, and memory holds them. A longer one is reported
with its decimal, by the fault that stands for what is too long. One with more digits than
are written is not: the fault is then that of an integer that has no text. -/
theorem run_repetition_outcome (hcheck : check.IsSound) (ho : s.store.IsText o t)
    (hc : s.store.IsInteger c n) (ht : t.length ≤ Text.maxLength) :
    (t.length * n ≤ Text.maxLength → t.length * n ≤ s.capacity →
      ∃ r, (repetition check o c).run s = (.ok r, s)) ∧
    (Text.maxLength < t.length * n → t.length * n < 10 ^ Integer.maxDigits →
      ∃ f : Fault, (repetition check o c).run s = (.error (.fault f), s) ∧
        f.class? = some .oversizeError ∧ f.message =
          .ofString "Required array size too large: " ++ .ofString (toString (t.length * n))) ∧
    (10 ^ Integer.maxDigits ≤ t.length * n →
      ∃ f : Fault, (repetition check o c).run s = (.error (.fault f), s) ∧
        f.class? = some .valueError ∧ f.message = Fault.digitLimit ++ Fault.digitAdvice) := by
  refine ⟨?_, ?_, ?_⟩
  · intro hsize hroom
    rw [run_repetition hcheck ho hc]
    by_cases hzero : n = 0
    · exact ⟨_, by rw [if_pos hzero]⟩
    by_cases hone : n = 1
    · exact ⟨_, by rw [if_neg hzero, if_pos hone]⟩
    · exact ⟨_, by rw [if_neg hzero, if_neg hone, if_neg (by omega), if_neg (by omega)]⟩
  · intro hsize hwritten
    refine ⟨.oversize (t.length * n), ?_, rfl, ?_⟩
    · rw [run_repetition_of_lt hcheck ho hc ht hsize, oversize_of_lt hwritten]
    · rw [Fault.message, Integer.decimal_natCast]
  · intro hlong
    have hsize : Text.maxLength < t.length * n :=
      Nat.lt_of_lt_of_le (Nat.lt_of_succ_lt maxLength_succ_lt_pow_maxDigits) hlong
    refine ⟨.unwritable, ?_, rfl, rfl⟩
    rw [run_repetition_of_lt hcheck ho hc ht hsize, oversize_of_le hlong]

/-- Twice as many copies as half of the greatest index are one code point too many, the
empty text can be repeated without bound, and a length of more than 4300 digits is not
reported. -/
theorem run_repetition_outcome_vast :
    (∃ f : Fault, (repetition .strict (.cell 0) (.cell 3)).run vastSession =
        (.error (.fault f), vastSession) ∧ f.class? = some .oversizeError ∧
      f.message = .ofString "Required array size too large: " ++
        .ofString (toString (2 * 2 ^ 62))) ∧
    (∃ r, (repetition .strict (.cell 1) (.cell 4)).run vastSession = (.ok r, vastSession)) ∧
    ∃ f : Fault, (repetition .strict (.cell 0) (.cell 4)).run vastSession =
        (.error (.fault f), vastSession) ∧ f.class? = some .valueError ∧
      f.message = Fault.digitLimit ++ Fault.digitAdvice := by
  have hpair : vastSession.store.IsText (.cell 0) [0x61, 0xDE00] :=
    Store.isText_of_entity rfl
  have hempty : vastSession.store.IsText (.cell 1) [] :=
    Store.isText_of_entity rfl
  have hhalf : vastSession.store.IsInteger (.cell 3) (2 ^ 62 : Nat) :=
    Store.isInteger_of_entity rfl
  have hlong : vastSession.store.IsInteger (.cell 4) (10 ^ Integer.maxDigits : Nat) :=
    Store.isInteger_of_entity rfl
  have hwritten : 2 * 2 ^ 62 < 10 ^ Integer.maxDigits := maxLength_succ_lt_pow_maxDigits
  have hzero : List.length ([] : Text) * 10 ^ Integer.maxDigits = 0 := by
    rw [List.length_nil, Nat.zero_mul]
  have hle : 10 ^ Integer.maxDigits ≤ List.length [0x61, 0xDE00] * 10 ^ Integer.maxDigits :=
    Nat.le_mul_of_pos_left _ (by decide)
  refine ⟨?_, ?_, ?_⟩
  · exact (run_repetition_outcome Checker.isSound_strict hpair hhalf (by decide)).2.1 (by decide)
      hwritten
  · refine (run_repetition_outcome Checker.isSound_strict hempty hlong (by decide)).1 ?_ ?_
    · rw [hzero]
      exact Nat.zero_le _
    · rw [hzero]
      exact Nat.zero_le _
  · exact (run_repetition_outcome Checker.isSound_strict hpair hlong (by decide)).2.2 hle

/-- A length beyond the greatest index need not be reported by the fault that stands for
what is too long. -/
theorem run_repetition_unwritable :
    Text.maxLength < List.length [0x61, 0xDE00] * 10 ^ Integer.maxDigits ∧
      (repetition .strict (.cell 0) (.cell 4)).run vastSession =
        (.error (.fault .unwritable), vastSession) ∧
      Fault.unwritable.class? ≠ some .oversizeError := by
  have hpair : vastSession.store.IsText (.cell 0) [0x61, 0xDE00] :=
    Store.isText_of_entity rfl
  have hlong : vastSession.store.IsInteger (.cell 4) (10 ^ Integer.maxDigits : Nat) :=
    Store.isInteger_of_entity rfl
  have hle : 10 ^ Integer.maxDigits ≤ List.length [0x61, 0xDE00] * 10 ^ Integer.maxDigits :=
    Nat.le_mul_of_pos_left _ (by decide)
  have hsize := Nat.lt_of_lt_of_le (Nat.lt_of_succ_lt maxLength_succ_lt_pow_maxDigits) hle
  refine ⟨hsize, ?_, by decide⟩
  rw [run_repetition_of_lt Checker.isSound_strict hpair hlong (by decide) hsize, oversize_of_le hle]

end LenientText.Guarded
