import LenientText.Text.Affix

/-!
# Common starts and ends of texts that begin or finish alike

What two texts begin with can be taken off both before their common start is
formed, unless it ends in a high surrogate; what they finish with can be taken off
before their common end is formed, unless it begins with a low one. These are the
only places at which a cut behind or before the shared part could split a pair
that the shorter texts do not have. Texts that differ at once have nothing in
common, except that they may share half of a pair, which does not count.
-/

namespace LenientText.Text

/-- Whether a pair starts at an index behind a beginning is decided behind it. -/
theorem pairAt_append_right (u t : Text) (n : Nat) :
    pairAt (u ++ t) ((u.length + n : Nat) : Int) = pairAt t (n : Int) := by
  have hdrop : (u ++ t).drop (u.length + n) = t.drop n := List.drop_length_add_append n
  change pairAt (u ++ t) (.ofNat (u.length + n)) = pairAt t (.ofNat n)
  rw [pairAt, pairAt, hdrop]

/-- No pair starts at a code point that is no high surrogate. -/
theorem pairAt_of_not_isHigh {t : Text} {n c : Nat} (h : t[n]? = some c)
    (hc : isHigh c = false) : pairAt t (n : Int) = false := by
  rw [pairAt_natCast, h]
  cases t[n + 1]? with
  | none => rfl
  | some d => simp only [isPair, hc, Bool.false_and]

/-- Equal beginnings add to the agreement. -/
theorem agreement_append (u a b : Text) :
    agreement (u ++ a) (u ++ b) = u.length + agreement a b := by
  induction u with
  | nil => simp only [List.nil_append, List.length_nil, Nat.zero_add]
  | cons c u ih =>
    simp only [List.cons_append, agreement, ↓reduceIte, ih, List.length_cons]
    omega

/-- A beginning that ends in no high surrogate adds to the length of the common
start. Without any agreement behind it the cut falls right behind the beginning,
where no pair is split. -/
theorem startLength_append {u : Text} (hu : ∀ c ∈ u.getLast?, isHigh c = false) (a b : Text) :
    startLength (u ++ a) (u ++ b) = u.length + startLength a b := by
  simp only [startLength, agreement_append]
  cases hn : agreement a b with
  | succ n =>
    have hi : ((u.length + (n + 1) : Nat) : Int) - 1 = ((u.length + n : Nat) : Int) := by omega
    have hj : ((n + 1 : Nat) : Int) - 1 = (n : Int) := by omega
    rw [hi, hj, pairAt_append_right, pairAt_append_right]
    split <;> omega
  | zero =>
    have hneg : ∀ t : Text, pairAt t (((0 : Nat) : Int) - 1) = false :=
      fun t => pairAt_of_neg t (by omega)
    have hcut : ∀ t : Text, pairAt (u ++ t) (((u.length + 0 : Nat) : Int) - 1) = false := by
      intro t
      cases hlen : u.length with
      | zero => exact hneg _
      | succ m =>
        have hi : ((m + 1 + 0 : Nat) : Int) - 1 = (m : Int) := by omega
        have hlast : u[m]? = u.getLast? := by
          rw [List.getLast?_eq_getElem?, hlen, Nat.add_sub_cancel]
        have hm : m < u.length := by omega
        have hget : (u ++ t)[m]? = some u[m] := by
          rw [List.getElem?_append_left hm, List.getElem?_eq_getElem hm]
        have hmem : u[m] ∈ u.getLast? := by
          rw [← hlast, List.getElem?_eq_getElem hm]
          rfl
        rw [hi]
        exact pairAt_of_not_isHigh hget (hu _ hmem)
    simp only [hneg, hcut, Bool.or_self, Bool.false_eq_true, ↓reduceIte]

/-- A beginning that ends in no high surrogate is part of the common start. -/
theorem commonStart_append {u : Text} (hu : ∀ c ∈ u.getLast?, isHigh c = false) (a b : Text) :
    commonStart (u ++ a) (u ++ b) = u ++ commonStart a b := by
  rw [commonStart, startLength_append hu, commonStart, List.take_length_add_append]

/-- Texts without any agreement have no common start. -/
theorem commonStart_eq_nil_of_agreement {a b : Text} (h : agreement a b = 0) :
    commonStart a b = [] := by
  have hz : startLength a b = 0 := by
    simp only [startLength, h]
    split <;> rfl
  rw [commonStart, hz, List.take_zero]

/-- Texts that differ in their first code points have no common start. -/
theorem commonStart_eq_nil_of_ne {c d : Nat} (h : c ≠ d) (a b : Text) :
    commonStart (c :: a) (d :: b) = [] :=
  commonStart_eq_nil_of_agreement (by simp only [agreement, if_neg h])

/-- The empty text has no start to share. -/
theorem commonStart_nil_left (t : Text) : commonStart [] t = [] :=
  commonStart_eq_nil_of_agreement rfl

/-- Nothing starts like the empty text. -/
theorem commonStart_nil_right (t : Text) : commonStart t [] = [] :=
  commonStart_eq_nil_of_agreement (by cases t <;> rfl)

/-- Texts that only share the high surrogate of a pair have no common start. -/
theorem commonStart_eq_nil_of_half {h l m : Nat} (hh : isHigh h = true) (hl : isLow l = true)
    (hlm : l ≠ m) (a b : Text) : commonStart (h :: l :: a) (h :: m :: b) = [] := by
  have hn : agreement (h :: l :: a) (h :: m :: b) = 1 := by
    simp only [agreement, ↓reduceIte, if_neg hlm, Nat.zero_add]
  have hp : pairAt (h :: l :: a) (((1 : Nat) : Int) - 1) = true := by
    change isPair h l = true
    rw [isPair, hh, hl, Bool.and_self]
  have hz : startLength (h :: l :: a) (h :: m :: b) = 0 := by
    simp only [startLength, hn, hp, Bool.true_or, ↓reduceIte, Nat.sub_self]
  rw [commonStart, hz, List.take_zero]

end LenientText.Text
