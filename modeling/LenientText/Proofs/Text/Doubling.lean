import LenientText.Proofs.Text.Repetition
import Mathlib.Algebra.Group.Nat.Defs
import Mathlib.Order.Bounds.Basic

/-!
# Bounds of the doubling loop

The loop compares the present length with the missing one, never with its own double. For
a text that is not empty the present length is that of a power of two of copies, and the
rounds end with the least power whose double suffices. So neither length ever exceeds the
wanted one, which is an index, and what is missing at the end is a start of what is there.

Nothing is said here of the empty text, which is never doubled.
-/

namespace LenientText.Text

variable {t : Text} {k n : Nat} {ts : List Text}

/-- The lengths that the loop compares as integers are in the proportion of the copies. -/
theorem lt_integer_missing_iff (ht : t ≠ []) (hkn : k ≤ n) :
    ((times k t).length : Int) < (t.length * n : Nat) - ((times k t).length : Int) ↔ 2 * k < n := by
  have hle : (times k t).length ≤ t.length * n := by
    rw [length_times]
    exact Nat.mul_le_mul_left _ hkn
  rw [← lt_missing_iff ht]
  omega

/-- From a number of copies, the texts of the loop are their doubles, one after the other.
While the loop goes on twice the copies are fewer than those wanted, and in the end they
are not. -/
theorem Rounds.exists_eq_map (h : Rounds (t.length * n) (times k t) ts) (ht : t ≠ [])
    (hkn : k ≤ n) :
    ∃ m, ts = (List.range (m + 1)).map (fun i => times (k * 2 ^ i) t) ∧
      (∀ i < m, k * 2 ^ (i + 1) < n) ∧ n ≤ k * 2 ^ (m + 1) := by
  generalize hu : times k t = u at h
  induction h generalizing k with
  | stop hstop =>
    subst hu
    have hhalf : ¬2 * k < n := fun hlt => hstop ((lt_integer_missing_iff ht hkn).mpr hlt)
    refine ⟨0, ?_, fun i hi => absurd hi (Nat.not_lt_zero i), by omega⟩
    simp only [Nat.zero_add, List.range_one, List.map_singleton, Nat.pow_zero, Nat.mul_one]
  | round hround rest ih =>
    subst hu
    have hlt : 2 * k < n := (lt_integer_missing_iff ht hkn).mp hround
    have htwice : times (2 * k) t = times k t ++ times k t := by rw [Nat.two_mul, times_add]
    have hshift : ∀ i, 2 * k * 2 ^ i = k * 2 ^ (i + 1) := by
      intro i
      rw [Nat.pow_succ, Nat.mul_comm 2 k, Nat.mul_assoc, Nat.mul_comm 2]
    obtain ⟨m, hts, hbefore, hafter⟩ := ih (Nat.le_of_lt hlt) htwice
    refine ⟨m + 1, ?_, ?_, ?_⟩
    · rw [List.range_succ_eq_map, List.map_cons, List.map_map, hts]
      simp only [hshift, Nat.pow_zero, Nat.mul_one, Function.comp_def, Nat.succ_eq_add_one]
    · intro i hi
      cases i with
      | zero =>
        rw [← hshift, Nat.pow_zero, Nat.mul_one]
        exact hlt
      | succ i =>
        rw [← hshift]
        exact hbefore i (by omega)
    · rw [← hshift]
      exact hafter

/-- A quantity lies between zero and the wanted length, and is an index. -/
def IsWithin (size : Nat) (quantity : Int) : Prop :=
  0 ≤ quantity ∧ quantity ≤ size ∧ quantity ≤ maxLength

/-- The texts of the doubling loop for so many copies of a text, at each of its tests: what
they are, how far the lengths go, and where the loop ends. -/
structure IsMeasuredLoop (t : Text) (n : Nat) (ts : List Text) : Prop where
  /-- The loop ends, with these texts at its tests. -/
  rounds : Rounds (t.length * n) t ts
  /-- After so many rounds there are two to this power of copies. -/
  getElem_eq : ∀ i (h : i < ts.length), ts[i] = times (2 ^ i) t
  /-- Neither the present length nor the missing one leaves the range up to the wanted
  length. -/
  isWithin : ∀ u ∈ ts, IsWithin (t.length * n) u.length ∧
    IsWithin (t.length * n) ((t.length * n : Nat) - (u.length : Int))
  /-- The rounds are as few as leave no more than half of the copies missing. -/
  isLeast : IsLeast {i | n ≤ 2 ^ (i + 1)} (ts.length - 1)
  /-- What is missing in the end is a start of what is there, cut off nowhere short, and
  completes the copies. -/
  exists_last : ∃ u, ts.getLast? = some u ∧ t.length * n - u.length ≤ u.length ∧
    (u.take (t.length * n - u.length)).length = t.length * n - u.length ∧
    repeated t n = u ++ u.take (t.length * n - u.length)

/-- Two copies or more are completed from the text with which the loop ends. -/
theorem repeated_eq_doubled_append (t : Text) (hn : 2 ≤ n) :
    repeated t n = doubled (t.length * n) t ++
      (doubled (t.length * n) t).take (t.length * n - (doubled (t.length * n) t).length) := by
  obtain ⟨m, rfl⟩ := Nat.exists_eq_add_of_le' hn
  rfl

/-- The texts of the loop are powers of two of copies, as few as leave no more than half of
the copies missing. -/
theorem exists_doublings_eq_map (ht : t ≠ []) (hn : 1 ≤ n) :
    ∃ m, doublings (t.length * n) t = (List.range (m + 1)).map (fun i => times (2 ^ i) t) ∧
      (∀ i < m, 2 ^ (i + 1) < n) ∧ n ≤ 2 ^ (m + 1) := by
  have hrounds : Rounds (t.length * n) (times 1 t) (doublings (t.length * n) t) := by
    rw [times_one]
    exact rounds_doublings fun hnil => absurd hnil ht
  obtain ⟨m, hts, hbefore, hafter⟩ := hrounds.exists_eq_map ht hn
  simp only [Nat.one_mul] at hts hbefore hafter
  exact ⟨m, hts, hbefore, hafter⟩

end LenientText.Text
