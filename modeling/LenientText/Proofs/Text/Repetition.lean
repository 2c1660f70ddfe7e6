import LenientText.Text.Repetition

/-!
# Doubling gives plain copies

Every text of the doubling loop is a number of copies of the given one, twice as many
after each round. The loop ends with at least half of the copies wanted and never makes
more than all of them, so what is missing then is a number of whole copies, and they
are a start of what is there.

The loop of an empty text makes no progress. That it ends all the same is due to the
wanted length, which is zero for every number of copies. So the loop is also described
without the condition that keeps an empty text from being doubled.
-/

namespace LenientText.Text

/-- So many copies of a text, one behind the other. -/
def times (n : Nat) (t : Text) : Text := (List.replicate n t).flatten

/-- The length of the copies is that of all of them together. -/
theorem length_times (n : Nat) (t : Text) : (times n t).length = t.length * n := by
  simp only [times, List.length_flatten, List.map_replicate, List.sum_replicate_nat, Nat.mul_comm]

/-- A single copy is the text. -/
theorem times_one (t : Text) : times 1 t = t := by
  simp only [times, List.replicate_one, List.flatten_singleton]

/-- Copies behind copies are their sum. -/
theorem times_add (m n : Nat) (t : Text) : times (m + n) t = times m t ++ times n t := by
  simp only [times, ← List.replicate_append_replicate, List.flatten_append]

/-- There are no copies of nothing. -/
theorem times_nil (n : Nat) : times n [] = [] := by
  have hlength := length_times n []
  simp only [List.length_nil, Nat.zero_mul] at hlength
  exact List.length_eq_zero_iff.mp hlength

/-- A start that is as long as some copies is these copies. -/
theorem take_times {k n : Nat} (h : k ≤ n) (t : Text) :
    (times n t).take (t.length * k) = times k t := by
  have hn : n = k + (n - k) := by omega
  rw [hn, times_add, ← length_times k t, List.take_left]

/-- The doubling loop without any care for empty texts: a round is made as long as the
present length is below the missing one, which is a difference of integers. There is a
list of texts exactly if the loop ends. -/
inductive Rounds (size : Nat) : Text → List Text → Prop
  /-- What is there is at least half of what is wanted. -/
  | stop {t : Text} (h : ¬ (t.length : Int) < size - t.length) : Rounds size t [t]
  /-- What is there is joined to itself. -/
  | round {t : Text} {ts : List Text} (h : (t.length : Int) < size - t.length)
      (rest : Rounds size (t ++ t) ts) : Rounds size t (t :: ts)

/-- The loop ends, with the texts that are listed, unless something is wanted of an
empty text. -/
theorem rounds_doublings {size : Nat} {t : Text} (h : t = [] → size = 0) :
    Rounds size t (doublings size t) := by
  fun_induction doublings size t with
  | case1 t hround ih =>
    have hrest : t ++ t = [] → size = 0 := by
      intro hnil
      exact h (List.append_eq_nil_iff.mp hnil).1
    exact .round (by omega) (ih hrest)
  | case2 t hround =>
    refine .stop ?_
    by_cases ht : t.length = 0
    · have hsize := h (List.length_eq_zero_iff.mp ht)
      omega
    · omega

section

variable {t : Text} {k n : Nat}

/-- The lengths that the loop compares are in the proportion of the copies. -/
theorem lt_missing_iff (ht : t ≠ []) :
    (times k t).length < t.length * n - (times k t).length ↔ 2 * k < n := by
  have hpos : 0 < t.length := List.length_pos_iff.mpr ht
  have hdouble : t.length * (2 * k) = 2 * (t.length * k) := Nat.mul_left_comm _ _ _
  have hmul : t.length * (2 * k) < t.length * n ↔ 2 * k < n := Nat.mul_lt_mul_left hpos
  rw [length_times, ← hmul, hdouble]
  omega

/-- A round is made while twice the copies are fewer than those wanted. It doubles
their number. -/
theorem doubled_times_of_lt (ht : t ≠ []) (hk : 0 < k) (h : 2 * k < n) :
    doubled (t.length * n) (times k t) = doubled (t.length * n) (times (2 * k) t) := by
  have hpos : 0 < (times k t).length := by
    rw [length_times]
    exact Nat.mul_pos (List.length_pos_iff.mpr ht) hk
  have htwice : times (2 * k) t = times k t ++ times k t := by rw [Nat.two_mul, times_add]
  rw [htwice]
  exact doubled_step ⟨hpos, (lt_missing_iff ht).mpr h⟩

/-- No round is made once the copies are half of those wanted. -/
theorem doubled_times_of_le (ht : t ≠ []) (h : n ≤ 2 * k) :
    doubled (t.length * n) (times k t) = times k t := by
  refine doubled_of_not fun hround => ?_
  have hlt := (lt_missing_iff ht).mp hround.2
  omega

/-- The loop ends with a number of copies that is at least half of those wanted, and at
most all of them. -/
theorem exists_doubled_eq_times (ht : t ≠ []) (hk : 0 < k) (hkn : k ≤ n) :
    ∃ m, doubled (t.length * n) (times k t) = times m t ∧ m ≤ n ∧ n ≤ 2 * m := by
  -- A round brings the copies closer to those wanted, so the induction is on the rest.
  induction hrest : n - k using Nat.strongRecOn generalizing k with
  | ind rest ih =>
    by_cases hround : 2 * k < n
    · have hless : n - 2 * k < rest := by omega
      obtain ⟨m, hm, hle, hhalf⟩ := ih (n - 2 * k) hless (by omega) (by omega) rfl
      refine ⟨m, ?_, hle, hhalf⟩
      rw [doubled_times_of_lt ht hk hround, hm]
    · refine ⟨k, doubled_times_of_le ht (by omega), hkn, by omega⟩

end

/-- Doubling and completing gives the copies, for every text and every number. -/
theorem repeated_eq_times (t : Text) (n : Nat) : repeated t n = times n t := by
  match n with
  | 0 => rfl
  | 1 => exact (times_one t).symm
  | n + 2 =>
    by_cases ht : t = []
    · subst ht
      have hend : doubled 0 [] = [] := doubled_of_not (by simp only [List.length_nil]; omega)
      simp only [repeated, List.length_nil, Nat.zero_mul, hend, List.take_nil, List.append_nil,
        times_nil]
    · obtain ⟨m, hm, hle, hhalf⟩ := exists_doubled_eq_times (k := 1) (n := n + 2) ht (by omega)
        (by omega)
      rw [times_one] at hm
      have hmissing : t.length * (n + 2) - t.length * m = t.length * (n + 2 - m) :=
        (Nat.mul_sub _ _ _).symm
      have hsum : m + (n + 2 - m) = n + 2 := by omega
      simp only [repeated, hm, length_times, hmissing]
      rw [take_times (by omega), ← times_add, hsum]

end LenientText.Text
