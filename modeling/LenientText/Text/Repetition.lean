import LenientText.Text.Size

/-!
# Repeating a text by doubling

Copies of a text are made by joining what is already there to itself as long as
the next doubling still falls short of the wanted length. The missing rest is
then a start of what is there. The successive texts of this loop are kept as a
list, so that statements about every round can be made.
-/

namespace LenientText.Text

/-- The successive texts of the doubling loop for a wanted length, the given text
first. A round is made while the present length is below the missing one; an
empty text is never doubled. -/
def doublings (size : Nat) (t : Text) : List Text :=
  if _h : 0 < t.length ∧ t.length < size - t.length then t :: doublings size (t ++ t)
  else [t]
termination_by size - t.length
decreasing_by
  simp only [List.length_append]
  omega

/-- The loop has at least its first text. -/
theorem doublings_ne_nil (size : Nat) (t : Text) : doublings size t ≠ [] := by
  rw [doublings]
  split <;> simp only [ne_eq, reduceCtorEq, not_false_eq_true, List.cons_ne_self]

/-- The text with which the doubling loop ends. -/
def doubled (size : Nat) (t : Text) : Text := (doublings size t).getLast (doublings_ne_nil size t)

/-- So many copies of a text. None and one need no loop. -/
def repeated (t : Text) : Nat → Text
  | 0 => []
  | 1 => t
  | n + 2 =>
    let size := t.length * (n + 2)
    let last := doubled size t
    last ++ last.take (size - last.length)

/-- A loop that makes no round ends with its first text. -/
theorem doubled_of_not {size : Nat} {t : Text}
    (h : ¬ (0 < t.length ∧ t.length < size - t.length)) : doubled size t = t := by
  have hd : doublings size t = [t] := by rw [doublings, dif_neg h]
  simp only [doubled, hd, List.getLast_singleton]

/-- A round replaces the text by its double. -/
theorem doubled_step {size : Nat} {t : Text}
    (h : 0 < t.length ∧ t.length < size - t.length) : doubled size t = doubled size (t ++ t) := by
  have hd : doublings size t = t :: doublings size (t ++ t) := by
    conv => lhs; rw [doublings, dif_pos h]
  simp only [doubled, hd]
  exact List.getLast_cons (doublings_ne_nil size (t ++ t))

end LenientText.Text
