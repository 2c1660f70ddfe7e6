import LenientText.Proofs.Text.Cut
import LenientText.Text.Segments

/-!
# Texts have one reading

A reading of a text takes it apart into pairs and single code points so that no pair is
left apart. What leads a pair does not trail in another one, so a text has exactly one
reading. The reading from the left is one and so is the reading from the right: they
meet pairs from opposite sides, also in runs of surrogates that do not match up, and
nevertheless give the same units.

The reading also says where the test for a pair succeeds. It does so exactly at the
indices at which a unit of two code points starts, and a position falls inside a unit
exactly if a pair starts one index before it.
-/

namespace LenientText.Text

/-- A list of units is a reading of a text: each unit is a pair or a single code point, and
a single code point forms no pair with the one behind it. -/
inductive IsReading : List Text → Text → Prop
  | nil : IsReading [] []
  | point {c : Nat} {us : List Text} {t : Text} : ¬Splits [c] t → IsReading us t →
      IsReading ([c] :: us) (c :: t)
  | pair {a b : Nat} {us : List Text} {t : Text} : isPair a b = true → IsReading us t →
      IsReading ([a, b] :: us) (a :: b :: t)

/-- A unit of a list starts at an index of the text that the list makes up. -/
def StandsAt (us : List Text) (n : Nat) (u : Text) : Prop :=
  ∃ before after, us = before ++ u :: after ∧ before.flatten.length = n

/-- A unit of two code points starts at an index. -/
def PairUnitAt (us : List Text) (n : Nat) : Prop := ∃ u, StandsAt us n u ∧ u.length = 2

/-- A position falls inside a unit: behind its first code point, and not behind its last. -/
def SplitsUnit (us : List Text) (k : Int) : Prop :=
  ∃ n u, StandsAt us n u ∧ (n : Int) < k ∧ k < n + u.length

section

variable {a b c d n : Nat} {k : Int} {t u v : Text} {us vs : List Text}

/-- What trails in a pair leads no other one. -/
theorem not_isPair_of_isPair (h : isPair a b = true) (c : Nat) : isPair b c = false := by
  rw [isPair, Bool.and_eq_true] at h
  rw [isPair, not_isHigh_of_isLow h.2, Bool.false_and]

/-- A cut behind a pair splits no other one. -/
theorem not_splits_of_isPair (h : isPair a b = true) (v : Text) : ¬Splits [a, b] v := by
  cases v with
  | nil => exact not_splits_nil_right _
  | cons c v =>
    intro hsplit
    have hpair : isPair b c = true := (splits_concat_cons (u := [a])).mp hsplit
    rw [not_isPair_of_isPair h] at hpair
    cases hpair

/-- A cut before a pair splits no other one. -/
theorem not_splits_pair (h : isPair a b = true) (u : Text) : ¬Splits u [a, b] := by
  rcases List.eq_nil_or_concat u with rfl | ⟨u, c, rfl⟩
  · rintro ⟨c, hc, -⟩
    cases hc
  · rw [List.concat_eq_append, splits_concat_cons]
    intro hpair
    rw [not_isPair_of_isPair hpair] at h
    cases h

namespace IsReading

/-- Readings of two texts in a row are one of the whole, unless the cut between them splits
a pair. -/
theorem append (h : IsReading us t) (h' : IsReading vs v) (hsplit : ¬Splits t v) :
    IsReading (us ++ vs) (t ++ v) := by
  induction h with
  | nil => exact h'
  | @point c us t hpoint h ih =>
    refine .point (fun hcut => ?_) (ih fun hcut => hsplit (hcut.append_left [c]))
    -- A last code point may still form a pair with the other text: that cut is the given one.
    by_cases hnil : t = []
    · subst hnil
      exact hsplit hcut
    · exact hpoint (hcut.of_append_right hnil)
  | @pair a b us t hpair h ih =>
    exact .pair hpair (ih fun hcut => hsplit (hcut.append_left [a, b]))

/-- A text has one reading only. Where two readings part, one takes a single code point
from a pair that the other one takes whole. -/
theorem unique (h : IsReading us t) (h' : IsReading vs t) : us = vs := by
  induction h generalizing vs with
  | nil => cases h'; rfl
  | @point c us t hpoint h ih =>
    cases h' with
    | point _ h' => rw [ih h']
    | pair hpair _ => exact absurd ((splits_concat_cons (u := [])).mpr hpair) hpoint
  | @pair a b us t hpair h ih =>
    cases h' with
    | point hpoint _ => exact absurd ((splits_concat_cons (u := [])).mpr hpair) hpoint
    | pair _ h' => rw [ih h']

/-- No unit of a reading has more than two code points. -/
theorem length_le (h : IsReading us t) (hu : u ∈ us) : u.length ≤ 2 := by
  induction h with
  | nil => cases hu
  | point hpoint h ih =>
    rcases List.mem_cons.mp hu with rfl | hu
    · rw [List.length_singleton]
      omega
    · exact ih hu
  | pair hpair h ih =>
    rcases List.mem_cons.mp hu with rfl | hu
    · exact Nat.le_refl 2
    · exact ih hu

end IsReading

/-- The reading from the left is a reading. -/
theorem isReading_unitsFromStart (t : Text) : IsReading (unitsFromStart t) t := by
  fun_induction unitsFromStart t with
  | case1 a b rest h ih => exact .pair h ih
  | case2 a b rest h ih =>
    exact .point (fun hsplit => h ((splits_concat_cons (u := [])).mp hsplit)) ih
  | case3 a => exact .point (not_splits_nil_right [a]) .nil
  | case4 => exact .nil

/-- The units that are read backward are, from the last one to the first, a reading of the
text itself. Each step puts one unit behind a reading of what stands before it. -/
theorem isReading_reverse_unitsBackward (t : Text) :
    IsReading (unitsBackward t).reverse t.reverse := by
  fun_induction unitsBackward t with
  | case1 b a rest h ih =>
    have hunit : IsReading [[a, b]] [a, b] := .pair h .nil
    rw [List.reverse_cons, List.reverse_cons, List.reverse_cons, List.append_assoc]
    exact ih.append hunit (not_splits_pair h rest.reverse)
  | case2 b a rest h ih =>
    have hunit : IsReading [[b]] [b] := .point (not_splits_nil_right [b]) .nil
    have hsplit : ¬Splits (a :: rest).reverse [b] := by
      rw [List.reverse_cons, splits_concat_cons]
      exact h
    rw [List.reverse_cons, List.reverse_cons (a := b)]
    exact ih.append hunit hsplit
  | case3 b => exact .point (not_splits_nil_right [b]) .nil
  | case4 => exact .nil

/-- Reading from the right gives the units that reading from the left gives. -/
theorem unitsFromEnd_eq (t : Text) : unitsFromEnd t = unitsFromStart t := by
  have hreading : IsReading (unitsFromEnd t) t.reverse.reverse :=
    isReading_reverse_unitsBackward t.reverse
  rw [List.reverse_reverse] at hreading
  exact hreading.unique (isReading_unitsFromStart t)

/-- The units read from the left are the only reading. -/
theorem isReading_iff : IsReading us t ↔ us = unitsFromStart t := by
  constructor
  · intro h
    exact h.unique (isReading_unitsFromStart t)
  · rintro rfl
    exact isReading_unitsFromStart t

/-- No unit starts anywhere in an empty list. -/
theorem not_standsAt_nil : ¬StandsAt [] n u := by
  rintro ⟨before, after, h, -⟩
  cases before <;> cases h

/-- The first unit starts at the beginning, and the others start behind it. -/
theorem standsAt_cons :
    StandsAt (v :: us) n u ↔ (n = 0 ∧ u = v) ∨ ∃ m, n = v.length + m ∧ StandsAt us m u := by
  constructor
  · rintro ⟨before, after, hus, hlength⟩
    cases before with
    | nil =>
      cases hus
      exact .inl ⟨hlength.symm, rfl⟩
    | cons w before =>
      cases hus
      rw [List.flatten_cons, List.length_append] at hlength
      exact .inr ⟨before.flatten.length, hlength.symm, before, after, rfl, rfl⟩
  · rintro (⟨rfl, rfl⟩ | ⟨m, rfl, before, after, rfl, rfl⟩)
    · exact ⟨[], us, rfl, rfl⟩
    · refine ⟨v :: before, after, rfl, ?_⟩
      rw [List.flatten_cons, List.length_append]

/-- What starts somewhere in a list is a member of it. -/
theorem StandsAt.mem (h : StandsAt us n u) : u ∈ us := by
  obtain ⟨before, after, rfl, -⟩ := h
  exact List.mem_append_right before List.mem_cons_self

/-- A unit of two code points starts at the beginning or behind the first unit. -/
theorem pairUnitAt_cons :
    PairUnitAt (v :: us) n ↔ (n = 0 ∧ v.length = 2) ∨ ∃ m, n = v.length + m ∧ PairUnitAt us m := by
  constructor
  · rintro ⟨u, hu, hlength⟩
    rcases standsAt_cons.mp hu with ⟨hn, rfl⟩ | ⟨m, hm, hrest⟩
    · exact .inl ⟨hn, hlength⟩
    · exact .inr ⟨m, hm, u, hrest, hlength⟩
  · rintro (⟨hn, hlength⟩ | ⟨m, hm, u, hu, hlength⟩)
    · exact ⟨v, standsAt_cons.mpr (.inl ⟨hn, rfl⟩), hlength⟩
    · exact ⟨u, standsAt_cons.mpr (.inr ⟨m, hm, hu⟩), hlength⟩

/-- A position falls inside the first unit or inside one behind it. -/
theorem splitsUnit_cons :
    SplitsUnit (v :: us) k ↔ (0 < k ∧ k < v.length) ∨ SplitsUnit us (k - v.length) := by
  constructor
  · rintro ⟨n, u, hu, hlow, hhigh⟩
    rcases standsAt_cons.mp hu with ⟨rfl, rfl⟩ | ⟨m, rfl, hrest⟩
    · exact .inl ⟨by omega, by omega⟩
    · exact .inr ⟨m, u, hrest, by omega, by omega⟩
  · rintro (⟨hlow, hhigh⟩ | ⟨m, u, hu, hlow, hhigh⟩)
    · exact ⟨0, v, standsAt_cons.mpr (.inl ⟨rfl, rfl⟩), by omega, by omega⟩
    · exact ⟨v.length + m, u, standsAt_cons.mpr (.inr ⟨m, rfl, hu⟩), by omega, by omega⟩

/-- The start of a text falls inside no unit, and neither does what lies before it. -/
theorem SplitsUnit.pos (h : SplitsUnit us k) : 0 < k := by
  obtain ⟨n, u, -, hlow, -⟩ := h
  omega

/-- The indices listed are those at which a unit of two code points starts. -/
theorem mem_pairStarts_iff {start : Nat} :
    n ∈ pairStarts start us ↔ ∃ m, n = start + m ∧ PairUnitAt us m := by
  induction us generalizing start with
  | nil =>
    constructor
    · intro h
      cases h
    · rintro ⟨m, -, u, hu, -⟩
      exact absurd hu not_standsAt_nil
  | cons v us ih =>
    have hcons : (∃ m, n = start + m ∧ PairUnitAt (v :: us) m) ↔
        (n = start ∧ v.length = 2) ∨ ∃ m, n = start + v.length + m ∧ PairUnitAt us m := by
      constructor
      · rintro ⟨m, rfl, hm⟩
        rcases pairUnitAt_cons.mp hm with ⟨rfl, hlength⟩ | ⟨p, rfl, hp⟩
        · exact .inl ⟨rfl, hlength⟩
        · exact .inr ⟨p, by omega, hp⟩
      · rintro (⟨rfl, hlength⟩ | ⟨p, rfl, hp⟩)
        · exact ⟨0, rfl, pairUnitAt_cons.mpr (.inl ⟨rfl, hlength⟩)⟩
        · exact ⟨v.length + p, by omega, pairUnitAt_cons.mpr (.inr ⟨p, rfl, hp⟩)⟩
    rw [hcons, pairStarts]
    by_cases hlength : v.length = 2
    · rw [if_pos hlength, List.mem_cons, ih, and_iff_left hlength]
    · rw [if_neg hlength, ih, or_iff_right fun h => hlength h.2]

/-- The boundaries are the positions in the text that fall inside no unit. -/
theorem mem_boundaries_iff {start : Nat} :
    n ∈ boundaries start us ↔
      ∃ m : Nat, n = start + m ∧ m ≤ us.flatten.length ∧ ¬SplitsUnit us m := by
  induction us generalizing start with
  | nil =>
    rw [boundaries, List.mem_singleton]
    constructor
    · rintro rfl
      refine ⟨0, rfl, Nat.le_refl 0, ?_⟩
      rintro ⟨m, u, hu, -⟩
      exact not_standsAt_nil hu
    · rintro ⟨m, rfl, hle, -⟩
      rw [List.flatten_nil, List.length_nil] at hle
      omega
  | cons v us ih =>
    have hcut : ∀ p : Nat, ((v.length + p : Nat) : Int) - v.length = p := by
      intro p
      omega
    rw [boundaries, List.mem_cons, ih, List.flatten_cons, List.length_append]
    constructor
    · rintro (rfl | ⟨p, rfl, hle, hnone⟩)
      · refine ⟨0, rfl, Nat.zero_le _, fun h => ?_⟩
        have hpos := h.pos
        omega
      · refine ⟨v.length + p, by omega, by omega, ?_⟩
        rw [splitsUnit_cons, hcut]
        rintro (⟨-, hlt⟩ | h)
        · omega
        · exact hnone h
    · rintro ⟨m, rfl, hle, hnone⟩
      rw [splitsUnit_cons, not_or] at hnone
      -- Up to the end of the first unit only its start is a boundary.
      rcases Nat.lt_or_ge m v.length with hlt | hge
      · exact .inl (by omega)
      · obtain ⟨p, rfl⟩ := Nat.exists_eq_add_of_le hge
        rw [hcut] at hnone
        exact .inr ⟨p, by omega, by omega, hnone.2⟩

namespace IsReading

/-- A pair starts exactly where a unit of two code points of the reading does. -/
theorem pairUnitAt_iff (h : IsReading us t) :
    PairUnitAt us n ↔ pairAt t (n : Int) = true := by
  induction h generalizing n with
  | nil =>
    constructor
    · rintro ⟨u, hu, -⟩
      exact absurd hu not_standsAt_nil
    · intro hpair
      cases n <;> cases hpair
  | @point c us t hpoint h ih =>
    have hfirst : pairAt (c :: t) 0 = false := pairAt_of_not_splits hpoint
    rw [pairUnitAt_cons]
    constructor
    · rintro (⟨-, hlength⟩ | ⟨m, rfl, hm⟩)
      · cases hlength
      · exact (pairAt_append_right [c] t m).trans (ih.mp hm)
    · intro hpair
      cases n with
      | zero =>
        rw [Int.natCast_zero, hfirst] at hpair
        cases hpair
      | succ m => exact .inr ⟨m, Nat.add_comm m 1, ih.mpr hpair⟩
  | @pair a b us t hab h ih =>
    have hsecond : pairAt (a :: b :: t) 1 = false :=
      pairAt_of_not_splits (not_splits_of_isPair hab t)
    rw [pairUnitAt_cons]
    constructor
    · rintro (⟨rfl, -⟩ | ⟨m, rfl, hm⟩)
      · exact hab
      · exact (pairAt_append_right [a, b] t m).trans (ih.mp hm)
    · intro hpair
      -- Between the two code points no unit starts, so no pair may start there either.
      match n with
      | 0 => exact .inl ⟨rfl, rfl⟩
      | 1 =>
        rw [Int.natCast_one, hsecond] at hpair
        cases hpair
      | m + 2 => exact .inr ⟨m, Nat.add_comm m 2, ih.mpr hpair⟩

/-- A position falls inside a unit of the reading exactly if a pair starts one index before
it: what is split is a unit of two code points, and the position lies between them. -/
theorem splitsUnit_iff (h : IsReading us t) : SplitsUnit us k ↔ pairAt t (k - 1) = true := by
  constructor
  · rintro ⟨n, u, hu, hlow, hhigh⟩
    have hle : u.length ≤ 2 := h.length_le hu.mem
    have hindex : k - 1 = (n : Int) := by omega
    rw [hindex, ← h.pairUnitAt_iff]
    exact ⟨u, hu, by omega⟩
  · intro hpair
    rcases Int.lt_or_le (k - 1) 0 with hneg | hpos
    · rw [pairAt_of_neg t hneg] at hpair
      cases hpair
    · obtain ⟨n, hn⟩ := Int.eq_ofNat_of_zero_le hpos
      rw [hn, ← h.pairUnitAt_iff] at hpair
      obtain ⟨u, hu, hlength⟩ := hpair
      exact ⟨n, u, hu, by omega, by omega⟩

end IsReading

/-- Pairs do not overlap, so none starts right behind the start of another one. -/
theorem pairAt_succ_of_pairAt {i : Int} (h : pairAt t i = true) : pairAt t (i + 1) = false := by
  rw [← Bool.not_eq_true]
  intro hsucc
  cases i with
  | ofNat n =>
    obtain ⟨c, hc, hhigh⟩ := exists_isHigh_of_pairAt (n := n + 1) hsucc
    have hnone : pairAt t (n : Int) = false := pairAt_of_not_isLow hc (not_isLow_of_isHigh hhigh)
    rw [Int.ofNat_eq_natCast, hnone] at h
    cases h
  | negSucc n => cases h

/-- The test for a pair looks at two code points only, a high surrogate at the index and a
low one right behind it. -/
theorem pairAt_eq_true_iff {i : Int} :
    pairAt t i = true ↔ ∃ (n : Nat) (a b : Nat), i = n ∧ t[n]? = some a ∧ t[n + 1]? = some b ∧
      (0xD800 ≤ a ∧ a ≤ 0xDBFF) ∧ 0xDC00 ≤ b ∧ b ≤ 0xDFFF := by
  constructor
  · intro hpair
    cases i with
    | ofNat n =>
      rw [Int.ofNat_eq_natCast, pairAt_natCast] at hpair
      split at hpair
      · next a b ha hb =>
        rw [isPair, Bool.and_eq_true, isHigh_iff, isLow_iff] at hpair
        exact ⟨n, a, b, rfl, ha, hb, hpair⟩
      · cases hpair
    | negSucc n => cases hpair
  · rintro ⟨n, a, b, rfl, ha, hb, hpair⟩
    rw [← isHigh_iff, ← isLow_iff, ← Bool.and_eq_true] at hpair
    rw [pairAt_natCast, ha, hb]
    exact hpair

/-- The test for a pair finds the starts of the units of two code points, and no others. -/
theorem pairAt_iff_mem_pairStarts {i : Int} :
    pairAt t i = true ↔ ∃ n ∈ pairStarts 0 (unitsFromStart t), (n : Int) = i := by
  have hstarts : ∀ n, n ∈ pairStarts 0 (unitsFromStart t) ↔ pairAt t (n : Int) = true := by
    intro n
    rw [← (isReading_unitsFromStart t).pairUnitAt_iff, mem_pairStarts_iff]
    simp only [Nat.zero_add, exists_eq_left']
  constructor
  · intro hpair
    cases i with
    | ofNat n => exact ⟨n, (hstarts n).mpr hpair, rfl⟩
    | negSucc n => cases hpair
  · rintro ⟨n, hn, rfl⟩
    exact (hstarts n).mp hn

/-- A position falls inside no unit exactly if no pair starts one index before it. -/
theorem not_splitsUnit_iff :
    ¬SplitsUnit (unitsFromStart t) k ↔ pairAt t (k - 1) = false := by
  rw [(isReading_unitsFromStart t).splitsUnit_iff, Bool.not_eq_true]

/-- The boundaries of the units are the positions in the text that split no pair. -/
theorem mem_boundaries_unitsFromStart :
    n ∈ boundaries 0 (unitsFromStart t) ↔ n ≤ t.length ∧ pairAt t ((n : Int) - 1) = false := by
  rw [mem_boundaries_iff, flatten_unitsFromStart]
  simp only [Nat.zero_add, exists_eq_left', not_splitsUnit_iff]

end

end LenientText.Text
