import LenientText.Text.Basic
import Mathlib.Data.List.TakeWhile

/-!
# Parts and joining

Splitting a text at a separating code point is the usual splitting of lists. Texts that are
joined by a separator are found again as the parts, unless there are none of them or the
separator stands in one of them.
-/

namespace LenientText.Text

variable {separator : Nat}

/-- The parts of a text are those of the usual splitting of lists. -/
theorem parts_eq_splitOn (separator : Nat) (t : Text) :
    parts separator t = t.splitOn separator := by
  induction t with
  | nil => rfl
  | cons c t ih =>
    have hsplit : (c :: t).splitOn separator =
        if (c == separator) = true then [] :: t.splitOn separator
        else (t.splitOn separator).modifyHead (List.cons c) :=
      List.splitOnP_cons_eq_if_modifyHead c t
    rw [hsplit, ← ih, parts]
    by_cases hc : c = separator
    · rw [if_pos hc, if_pos (beq_iff_eq.mpr hc)]
    · rw [if_neg hc, if_neg fun h => hc (beq_iff_eq.mp h)]
      cases hparts : parts separator t with
      | nil => exact absurd hparts (parts_ne_nil separator t)
      | cons first others => rfl

/-- Texts without a separator, joined by it, are the parts of what they are joined to. -/
theorem parts_join {ts : List Text} (hne : ts ≠ []) (h : ∀ t ∈ ts, separator ∉ t) :
    parts separator (join [separator] ts) = ts := by
  rw [parts_eq_splitOn]
  exact List.splitOn_intercalate separator h hne

/-- A text without a separator is its only part. -/
theorem parts_of_not_mem {t : Text} (h : separator ∉ t) : parts separator t = [t] := by
  have hjoin : join [separator] [t] = t := List.append_nil t
  have hnone : ∀ u ∈ [t], separator ∉ u := by
    intro u hu
    rw [List.mem_singleton.mp hu]
    exact h
  have hparts := parts_join (List.cons_ne_nil t []) hnone
  rwa [hjoin] at hparts

end LenientText.Text
