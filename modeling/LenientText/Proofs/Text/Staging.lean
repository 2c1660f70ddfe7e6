import LenientText.Proofs.Text.Template

/-!
# Filling a template in stages

A template that has been filled with fewer arguments than it has places is a template
again. Its first piece is what has been filled, and its other pieces are those that the
arguments did not reach, provided that the filled part holds no placeholder: one may stand
in an argument, or be formed where an argument and a piece meet. Then a second filling goes
on where the first one ended, as if all arguments had been there from the start.
-/

namespace LenientText.Template

variable {t : Text} {ps as bs : List Text}

/-- Pieces and arguments by turns, up to the piece behind the last argument. -/
def filledPart (ps as : List Text) : Text := weave (ps.take (as.length + 1)) as

/-- The first stage leaves the filled part as the first piece, and the pieces that it did not
reach. -/
def remainder (ps as : List Text) : List Text := filledPart ps as :: ps.drop (as.length + 1)

/-- What stands before the first piece stands before everything woven. -/
theorem weave_append_cons (u p : Text) (ps args : List Text) :
    weave ((u ++ p) :: ps) args = u ++ weave (p :: ps) args := by
  cases ps with
  | nil => rfl
  | cons q ps => cases args <;> simp only [weave, List.append_assoc]

/-- Weaving can be resumed behind the arguments that have been woven in. -/
theorem weave_append (h : as.length < ps.length) (bs : List Text) :
    weave ps (as ++ bs) = weave (remainder ps as) bs := by
  induction as generalizing ps with
  | nil =>
    obtain ⟨p, rest, rfl⟩ := List.exists_cons_of_length_pos h
    rfl
  | cons a as ih =>
    obtain ⟨p, rest, rfl⟩ := List.exists_cons_of_length_pos (Nat.lt_of_le_of_lt (Nat.zero_le _) h)
    have hrest : as.length < rest.length := Nat.lt_of_succ_lt_succ h
    obtain ⟨q, ps, rfl⟩ := List.exists_cons_of_length_pos (Nat.lt_of_le_of_lt (Nat.zero_le _) hrest)
    have hstep : remainder (p :: q :: ps) (a :: as) =
        (p ++ a ++ filledPart (q :: ps) as) :: (q :: ps).drop (as.length + 1) := rfl
    have hwoven : weave (p :: q :: ps) (a :: as ++ bs) = p ++ a ++ weave (q :: ps) (as ++ bs) := rfl
    rw [hstep, weave_append_cons, hwoven, ih hrest, remainder]

/-- Nothing is in surplus as long as there are places. -/
theorem IsCut.fill_of_le (h : IsCut t ps) (hlen : as.length ≤ ps.length - 1) :
    fill t as = weave ps as := by
  have hplaces : places t = ps.length - 1 := by rw [places, h.eq_pieces]
  have hnone : as.drop (places t) = [] := List.drop_eq_nil_of_le (hplaces ▸ hlen)
  rw [fill_eq_weave, hnone, surplus, List.append_nil, ← h.eq_pieces]

/-- If the filled part holds no placeholder, the first stage leaves a template that is cut at
the places that are left. -/
theorem IsCut.remainder (h : IsCut t ps) (hlen : as.length ≤ ps.length - 1)
    (hfree : ¬placeholder <:+: filledPart ps as) : IsCut (fill t as) (remainder ps as) where
  ne_nil := List.cons_ne_nil _ _
  not_infix := by
    intro p hp
    rcases List.mem_cons.mp hp with rfl | hp
    · exact hfree
    · exact h.not_infix p (List.mem_of_mem_drop hp)
  join_eq := by
    have hpos : 0 < ps.length := List.length_pos_iff.mpr h.ne_nil
    have hlt : as.length < ps.length := by omega
    have hwoven := weave_append hlt []
    rw [List.append_nil, weave_nil] at hwoven
    rw [h.fill_of_le hlen, hwoven]

/-- Filling a template in two stages fills it with all arguments, if the first stage has no
more arguments than there are places and its filled part holds no placeholder. -/
theorem IsCut.fill_fill (h : IsCut t ps) (hlen : as.length ≤ ps.length - 1)
    (hfree : ¬placeholder <:+: filledPart ps as) (bs : List Text) :
    fill (fill t as) bs = fill t (as ++ bs) := by
  have hpos : 0 < ps.length := List.length_pos_iff.mpr h.ne_nil
  have hpieces : pieces (fill t as) = Template.remainder ps as :=
    (h.remainder hlen hfree).eq_pieces.symm
  have hplaces : places t = ps.length - 1 := by rw [places, h.eq_pieces]
  have hleft : places (fill t as) = ps.length - 1 - as.length := by
    rw [places, hpieces, Template.remainder, List.length_cons, List.length_drop]
    omega
  -- The arguments without a place are those of the second stage, since the first has none.
  have hsurplus : (as ++ bs).drop (places t) = bs.drop (places (fill t as)) := by
    rw [hplaces, hleft, List.drop_append, List.drop_eq_nil_of_le hlen, List.nil_append]
  have hwoven : weave (pieces t) (as ++ bs) = weave (pieces (fill t as)) bs := by
    rw [hpieces, ← h.eq_pieces, weave_append (by omega)]
  calc fill (fill t as) bs
      = weave (pieces (fill t as)) bs ++ surplus (bs.drop (places (fill t as))) :=
        fill_eq_weave _ _
    _ = weave (pieces t) (as ++ bs) ++ surplus ((as ++ bs).drop (places t)) := by
        rw [hwoven, hsurplus]
    _ = fill t (as ++ bs) := (fill_eq_weave _ _).symm

end LenientText.Template
