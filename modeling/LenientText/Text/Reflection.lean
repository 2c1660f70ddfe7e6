import LenientText.Text.Surrogate

/-!
# The reflection of a text

Reflection reverses a text and exchanges each high surrogate with the low one of
the same offset in its range. A pair stays a pair this way, so that what holds
at the start of texts holds at their ends.
-/

namespace LenientText.Text

/-- The surrogate of the other kind with the same offset, and any other code
point itself. -/
def turn (c : Nat) : Nat :=
  if isHigh c then c + 0x400
  else if isLow c then c - 0x400
  else c

/-- A text reversed, its surrogates exchanged. -/
def reflect (t : Text) : Text := (t.map turn).reverse

/-- Turning twice changes nothing. -/
theorem turn_turn (c : Nat) : turn (turn c) = c := by
  simp only [turn, isHigh, isLow, highMin, highMax, lowMin, lowMax, Bool.and_eq_true,
    decide_eq_true_eq]
  repeat' split
  all_goals omega

/-- Reflecting twice changes nothing. -/
theorem reflect_reflect (t : Text) : reflect (reflect t) = t := by
  simp only [reflect, List.map_reverse, List.reverse_reverse, List.map_map]
  conv => rhs; rw [← List.map_id t]
  exact List.map_congr_left fun c _ => turn_turn c

/-- Reflection keeps the length. -/
theorem length_reflect (t : Text) : (reflect t).length = t.length := by
  simp only [reflect, List.length_reverse, List.length_map]

end LenientText.Text
