import LenientText.Proofs.Text.Reflection
import Mathlib.Order.Defs.Unbundled

/-!
# Cuts that split no pair

A whole start of a text is a start behind which a cut splits no surrogate pair, and a
whole end is an end before which none does. Both are partial orders of texts. In the
first one the common start of two texts is their greatest lower bound: the whole starts
of the common start are the texts that are whole starts of both. This is more than to be
the longest, and it no longer mentions the code point that was taken back. Ends follow
by reflection.
-/

namespace LenientText.Text

/-- A cut between two texts in a row splits a pair. -/
def Splits (u v : Text) : Prop := ∃ h ∈ u.getLast?, ∃ l ∈ v.head?, isPair h l = true

/-- A text starts with another one, and a cut behind that splits no pair. -/
def IsWholeStart (p t : Text) : Prop := ∃ rest, p ++ rest = t ∧ ¬Splits p rest

/-- A text ends with another one, and a cut before that splits no pair. -/
def IsWholeEnd (p t : Text) : Prop := ∃ rest, rest ++ p = t ∧ ¬Splits rest p

section

variable {a b p q r t u v : Text}

/-- Before the empty text nothing is split. -/
theorem not_splits_nil_right (u : Text) : ¬Splits u [] := by
  rintro ⟨h, -, l, hl, -⟩
  cases hl

/-- What a cut splits in a text it also splits in a longer one. -/
theorem Splits.append_right (h : Splits u v) (w : Text) : Splits u (v ++ w) := by
  obtain ⟨c, hc, d, hd, hpair⟩ := h
  refine ⟨c, hc, d, ?_, hpair⟩
  rw [List.head?_append, Option.mem_def.mp hd]
  rfl

/-- What a cut before a text splits is split in any start of the text that is not empty. -/
theorem Splits.of_append_right {w : Text} (h : Splits u (v ++ w)) (hv : v ≠ []) : Splits u v := by
  obtain ⟨c, hc, d, hd, hpair⟩ := h
  obtain ⟨e, v, rfl⟩ := List.exists_cons_of_ne_nil hv
  exact ⟨c, hc, d, hd, hpair⟩

/-- What a cut splits behind a text it also splits behind a longer one. -/
theorem Splits.append_left (h : Splits u v) (w : Text) : Splits (w ++ u) v := by
  obtain ⟨c, hc, d, hd, hpair⟩ := h
  refine ⟨c, ?_, d, hd, hpair⟩
  rw [List.getLast?_append, Option.mem_def.mp hc]
  rfl

/-- A cut between two code points splits a pair exactly if they form one. -/
theorem splits_concat_cons {c d : Nat} : Splits (u ++ [c]) (d :: v) ↔ isPair c d = true := by
  constructor
  · rintro ⟨e, he, f, hf, hpair⟩
    rw [List.getLast?_concat] at he
    cases he
    cases hf
    exact hpair
  · intro hpair
    exact ⟨c, List.getLast?_concat, d, rfl, hpair⟩

/-- No pair starts before a code point that is no low surrogate. -/
theorem pairAt_of_not_isLow {t : Text} {n c : Nat} (h : t[n + 1]? = some c)
    (hc : isLow c = false) : pairAt t (n : Int) = false := by
  rw [pairAt_natCast, h]
  cases t[n]? with
  | none => rfl
  | some d => simp only [isPair, hc, Bool.and_false]

/-- A high surrogate stands where a pair starts. -/
theorem exists_isHigh_of_pairAt {t : Text} {n : Nat} (h : pairAt t (n : Int) = true) :
    ∃ c, t[n]? = some c ∧ isHigh c = true := by
  rw [pairAt_natCast] at h
  split at h
  · next c d hc hd =>
    rw [isPair, Bool.and_eq_true] at h
    exact ⟨c, hc, h.1⟩
  · cases h

/-- A cut splits a pair exactly if one starts at the code point before it. -/
theorem splits_iff_pairAt (u v : Text) :
    Splits u v ↔ pairAt (u ++ v) ((u.length : Int) - 1) = true := by
  rcases List.eq_nil_or_concat u with rfl | ⟨u, c, rfl⟩
  · rw [pairAt_of_neg _ (by simp only [List.length_nil]; omega)]
    constructor
    · rintro ⟨h, hh, -⟩
      cases hh
    · intro h
      cases h
  · have hindex : (((u ++ [c]).length : Nat) : Int) - 1 = ((u.length + 0 : Nat) : Int) := by
      simp only [List.length_append, List.length_singleton]
      omega
    rw [List.concat_eq_append, hindex]
    cases v with
    | nil =>
      rw [List.append_assoc, pairAt_append_right]
      constructor
      · intro h
        exact absurd h (not_splits_nil_right (u ++ [c]))
      · intro h
        cases h
    | cons d v =>
      rw [splits_concat_cons, List.append_assoc, pairAt_append_right]
      exact Iff.rfl

/-- Where a cut splits no pair, none starts at the code point before it. -/
theorem pairAt_of_not_splits (h : ¬Splits u v) :
    pairAt (u ++ v) ((u.length : Int) - 1) = false := by
  rw [splits_iff_pairAt, Bool.not_eq_true] at h
  exact h

/-- A whole start is a start at whose last code point no pair of the text starts. -/
theorem isWholeStart_iff :
    IsWholeStart p t ↔ p <+: t ∧ pairAt t ((p.length : Int) - 1) = false := by
  constructor
  · rintro ⟨rest, rfl, hsplit⟩
    rw [splits_iff_pairAt, Bool.not_eq_true] at hsplit
    exact ⟨List.prefix_append p rest, hsplit⟩
  · rintro ⟨⟨rest, rfl⟩, hpair⟩
    refine ⟨rest, rfl, ?_⟩
    rw [splits_iff_pairAt, hpair]
    exact Bool.false_ne_true

/-- A whole end is an end before whose first code point no pair of the text starts. -/
theorem isWholeEnd_iff :
    IsWholeEnd p t ↔ p <:+ t ∧ pairAt t ((t.length : Int) - p.length - 1) = false := by
  have hindex : ∀ rest : Text, ((rest ++ p).length : Int) - p.length - 1 =
      (rest.length : Int) - 1 := by
    intro rest
    rw [List.length_append]
    omega
  constructor
  · rintro ⟨rest, rfl, hsplit⟩
    rw [splits_iff_pairAt, Bool.not_eq_true] at hsplit
    rw [hindex]
    exact ⟨List.suffix_append rest p, hsplit⟩
  · rintro ⟨⟨rest, rfl⟩, hpair⟩
    rw [hindex] at hpair
    refine ⟨rest, rfl, ?_⟩
    rw [splits_iff_pairAt, hpair]
    exact Bool.false_ne_true

/-- A text is a whole start of itself. -/
theorem isWholeStart_refl (t : Text) : IsWholeStart t t :=
  ⟨[], List.append_nil t, not_splits_nil_right t⟩

/-- Whole starts of whole starts are whole starts. -/
theorem IsWholeStart.trans (hpq : IsWholeStart p q) (hqt : IsWholeStart q t) :
    IsWholeStart p t := by
  obtain ⟨v, rfl, hv⟩ := hpq
  obtain ⟨w, rfl, hw⟩ := hqt
  refine ⟨v ++ w, (List.append_assoc p v w).symm, ?_⟩
  by_cases hnil : v = []
  · rw [hnil, List.append_nil] at hw
    rw [hnil, List.nil_append]
    exact hw
  · exact fun hsplit => hv (hsplit.of_append_right hnil)

/-- Of two whole starts of a text the shorter one is a whole start of the longer one. -/
theorem IsWholeStart.of_length_le (hp : IsWholeStart p t) (hq : IsWholeStart q t)
    (hlength : p.length ≤ q.length) : IsWholeStart p q := by
  have hpq : p <+: q := List.prefix_of_prefix_length_le (isWholeStart_iff.mp hp).1
    (isWholeStart_iff.mp hq).1 hlength
  obtain ⟨v, rfl⟩ := hpq
  obtain ⟨rest, hrest, hsplit⟩ := hp
  obtain ⟨w, rfl, -⟩ := hq
  rw [List.append_assoc, List.append_cancel_left_eq] at hrest
  subst hrest
  exact ⟨v, rfl, fun hv => hsplit (hv.append_right w)⟩

instance : IsPartialOrder Text IsWholeStart where
  refl := isWholeStart_refl
  trans _ _ _ := IsWholeStart.trans
  antisymm _ _ hpq hqp :=
    (isWholeStart_iff.mp hpq).1.eq_of_length_le (isWholeStart_iff.mp hqp).1.length_le

end

section

variable {p : Text}

/-- Any shared start is part of the agreement. -/
theorem length_le_agreement {a b : Text} (ha : p <+: a) (hb : p <+: b) :
    p.length ≤ agreement a b := by
  obtain ⟨u, rfl⟩ := ha
  obtain ⟨v, rfl⟩ := hb
  rw [agreement_append]
  omega

/-- At most one code point is taken back. -/
theorem agreement_le_startLength (a b : Text) : agreement a b ≤ startLength a b + 1 := by
  unfold startLength
  dsimp only
  split <;> omega

/-- Nothing is added to the agreement. -/
theorem startLength_le_agreement (a b : Text) : startLength a b ≤ agreement a b := by
  unfold startLength
  dsimp only
  split <;> omega

/-- The common start is as long as computed. -/
theorem length_commonStart (a b : Text) : (commonStart a b).length = startLength a b := by
  rw [commonStart, List.length_take]
  have hle := Nat.le_trans (startLength_le_agreement a b) (agreement_le_left a b)
  omega

/-- The common start does not depend on the order of the texts. -/
theorem commonStart_comm (a b : Text) : commonStart a b = commonStart b a := by
  have hlength : startLength a b = startLength b a := by
    simp only [startLength, agreement_comm a b, Bool.or_comm]
  have htake : ∀ t : Text,
      t.take (startLength a b) = (t.take (agreement a b)).take (startLength a b) := by
    intro t
    rw [List.take_take, Nat.min_eq_left (startLength_le_agreement a b)]
  rw [commonStart, htake, take_agreement, ← htake, hlength, commonStart]

/-- The code points that agree stand in both texts. -/
theorem getElem?_of_lt_agreement {a b : Text} {n : Nat} (h : n < agreement a b) :
    a[n]? = b[n]? := by
  have htake := congrArg (fun t : Text => t[n]?) (take_agreement a b)
  rw [List.getElem?_take_of_lt h, List.getElem?_take_of_lt h] at htake
  exact htake

/-- Behind the common start no pair of the first text is split. If a code point was taken
back, it leads a pair of one of the texts. It stands in both, and what leads a pair does
not trail in another one. -/
theorem pairAt_startLength (a b : Text) : pairAt a ((startLength a b : Int) - 1) = false := by
  unfold startLength
  dsimp only
  split
  · next hpair =>
    rw [Bool.or_eq_true] at hpair
    rcases hn : agreement a b with _ | n
    · exact pairAt_of_neg a (by omega)
    · have hindex : ((n + 1 : Nat) : Int) - 1 = (n : Int) := by omega
      have hhigh : ∃ c, a[n]? = some c ∧ isHigh c = true := by
        rw [hn, hindex] at hpair
        have hsame : a[n]? = b[n]? := getElem?_of_lt_agreement (by omega)
        rcases hpair with hpair | hpair
        · exact exists_isHigh_of_pairAt hpair
        · rw [hsame]
          exact exists_isHigh_of_pairAt hpair
      obtain ⟨c, hc, hhigh⟩ := hhigh
      rw [Nat.add_sub_cancel]
      cases n with
      | zero => exact pairAt_of_neg a (by omega)
      | succ m =>
        have hindex' : ((m + 1 : Nat) : Int) - 1 = (m : Int) := by omega
        rw [hindex']
        exact pairAt_of_not_isLow hc (not_isLow_of_isHigh hhigh)
  · next hpair =>
    rw [Bool.or_eq_true, not_or, Bool.not_eq_true] at hpair
    exact hpair.1

/-- The common start is a whole start of the first text. -/
theorem isWholeStart_commonStart (a b : Text) : IsWholeStart (commonStart a b) a := by
  rw [isWholeStart_iff, length_commonStart]
  exact ⟨List.take_prefix _ _, pairAt_startLength a b⟩

/-- A whole start of both texts is not longer than their common start: it does not reach
behind a code point that was taken back. -/
theorem length_le_startLength {a b : Text} (ha : IsWholeStart p a) (hb : IsWholeStart p b) :
    p.length ≤ startLength a b := by
  rw [isWholeStart_iff] at ha hb
  have hle : p.length ≤ agreement a b := length_le_agreement ha.1 hb.1
  unfold startLength
  dsimp only
  split
  · next hpair =>
    have hne : p.length ≠ agreement a b := by
      intro heq
      rw [← heq, ha.2, hb.2] at hpair
      cases hpair
    omega
  · exact hle

/-- The whole starts of the common start are the whole starts of both texts. -/
theorem isWholeStart_commonStart_iff (p a b : Text) :
    IsWholeStart p (commonStart a b) ↔ IsWholeStart p a ∧ IsWholeStart p b := by
  have hright : IsWholeStart (commonStart a b) b := by
    rw [commonStart_comm]
    exact isWholeStart_commonStart b a
  constructor
  · intro h
    exact ⟨h.trans (isWholeStart_commonStart a b), h.trans hright⟩
  · rintro ⟨ha, hb⟩
    refine ha.of_length_le (isWholeStart_commonStart a b) ?_
    rw [length_commonStart]
    exact length_le_startLength ha hb

/-- A cut between reflections splits the reflection of a pair. -/
theorem splits_reflect (u v : Text) : Splits (reflect v) (reflect u) ↔ Splits u v := by
  have hlast : (reflect v).getLast? = v.head?.map turn := by
    rw [reflect, List.getLast?_reverse, List.head?_map]
  have hhead : (reflect u).head? = u.getLast?.map turn := by
    rw [reflect, List.head?_reverse, List.getLast?_map]
  rw [Splits, hlast, hhead]
  constructor
  · rintro ⟨c, hc, d, hd, hpair⟩
    obtain ⟨l, hl, rfl⟩ := Option.map_eq_some_iff.mp hc
    obtain ⟨h, hh, rfl⟩ := Option.map_eq_some_iff.mp hd
    rw [isPair_turn] at hpair
    exact ⟨h, hh, l, hl, hpair⟩
  · rintro ⟨h, hh, l, hl, hpair⟩
    rw [← isPair_turn] at hpair
    exact ⟨turn l, Option.mem_map_of_mem turn hl, turn h, Option.mem_map_of_mem turn hh, hpair⟩

/-- Whole ends are the whole starts of reflections. -/
theorem isWholeEnd_iff_reflect {t : Text} :
    IsWholeEnd p t ↔ IsWholeStart (reflect p) (reflect t) := by
  constructor
  · rintro ⟨rest, rfl, hsplit⟩
    refine ⟨reflect rest, (reflect_append rest p).symm, ?_⟩
    rw [splits_reflect]
    exact hsplit
  · rintro ⟨rest, hrest, hsplit⟩
    refine ⟨reflect rest, ?_, ?_⟩
    · rw [← reflect_reflect t, ← hrest, reflect_append, reflect_reflect]
    · rw [← splits_reflect, reflect_reflect]
      exact hsplit

/-- Texts with the same reflection are the same. -/
theorem reflect_injective {a b : Text} (h : reflect a = reflect b) : a = b := by
  rw [← reflect_reflect a, h, reflect_reflect]

instance : IsPartialOrder Text IsWholeEnd where
  refl t := isWholeEnd_iff_reflect.mpr (refl _)
  trans a b c hab hbc := by
    rw [isWholeEnd_iff_reflect] at *
    exact hab.trans hbc
  antisymm a b hab hba := by
    rw [isWholeEnd_iff_reflect] at *
    exact reflect_injective (antisymm hab hba)

/-- The whole ends of the common end are the whole ends of both texts. -/
theorem isWholeEnd_commonEnd_iff (p a b : Text) :
    IsWholeEnd p (commonEnd a b) ↔ IsWholeEnd p a ∧ IsWholeEnd p b := by
  simp only [isWholeEnd_iff_reflect, commonEnd_eq_reflect, reflect_reflect,
    isWholeStart_commonStart_iff]

/-- Any shared start is at most one code point longer than the common start. -/
theorem length_le_commonStart {a b : Text} (ha : p <+: a) (hb : p <+: b) :
    p.length ≤ (commonStart a b).length + 1 := by
  rw [length_commonStart]
  exact Nat.le_trans (length_le_agreement ha hb) (agreement_le_startLength a b)

/-- Any shared end is at most one code point longer than the common end. -/
theorem length_le_commonEnd {a b : Text} (ha : p <:+ a) (hb : p <:+ b) :
    p.length ≤ (commonEnd a b).length + 1 := by
  have hreflect : ∀ {t : Text}, p <:+ t → reflect p <+: reflect t := by
    rintro t ⟨rest, rfl⟩
    exact ⟨reflect rest, (reflect_append rest p).symm⟩
  have hle := length_le_commonStart (hreflect ha) (hreflect hb)
  rw [length_reflect] at hle
  rw [commonEnd_eq_reflect, length_reflect]
  exact hle

end

end LenientText.Text
