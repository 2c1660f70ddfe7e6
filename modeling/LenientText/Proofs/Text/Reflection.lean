import LenientText.Proofs.Text.Affix
import LenientText.Text.Reflection

/-!
# Common ends as reflected common starts

Reflection takes pairs to pairs and exchanges the two directions of reading. So
the scan from the ends of two texts is the scan from the starts of their
reflections, and the common end is the reflection of a common start. What is
known of starts carries over to ends this way.
-/

namespace LenientText.Text

/-- What leads a pair trails in its reflection. -/
theorem isLow_turn (c : Nat) : isLow (turn c) = isHigh c := by
  rw [Bool.eq_iff_iff, isLow_iff, isHigh_iff]
  simp only [turn, isHigh_iff, isLow_iff]
  split
  · omega
  · split <;> omega

/-- What trails in a pair leads its reflection. -/
theorem isHigh_turn (c : Nat) : isHigh (turn c) = isLow c := by
  rw [← isLow_turn, turn_turn]

/-- Two neighbours form a pair exactly if their reflections do in the other order. -/
theorem isPair_turn (a b : Nat) : isPair (turn b) (turn a) = isPair a b := by
  rw [isPair, isPair, isHigh_turn, isLow_turn, Bool.and_comm]

/-- Different code points have different reflections. -/
theorem turn_injective {c d : Nat} (h : turn c = turn d) : c = d := by
  rw [← turn_turn c, h, turn_turn]

/-- The reflection of two texts in a row is that of the second before the first. -/
theorem reflect_append (s t : Text) : reflect (s ++ t) = reflect t ++ reflect s := by
  simp only [reflect, List.map_append, List.reverse_append]

/-- The code point at an index of the reflection is the one as far from the end,
turned. -/
theorem getElem?_reflect {t : Text} {n : Nat} (h : n < t.length) :
    (reflect t)[n]? = (t[t.length - 1 - n]?).map turn := by
  have hm : n < (t.map turn).length := by rw [List.length_map]; exact h
  rw [reflect, List.getElem?_reverse hm, List.length_map, List.getElem?_map]

/-- A pair of the reflection starts where a pair of the text ends, counted from the
other side. -/
theorem pairAt_reflect (t : Text) (i : Int) :
    pairAt (reflect t) ((t.length : Int) - 2 - i) = pairAt t i := by
  rcases Int.lt_or_le i 0 with hneg | hpos
  · rw [pairAt_of_neg t hneg]
    obtain ⟨m, hm⟩ : ∃ m : Nat, (t.length : Int) - 2 - i = (m : Int) ∨
        (t.length : Int) - 2 - i < 0 :=
      ⟨((t.length : Int) - 2 - i).toNat, by omega⟩
    rcases hm with hm | hm
    · have hlen : (reflect t)[m + 1]? = none :=
        List.getElem?_eq_none (by rw [length_reflect]; omega)
      rw [hm, pairAt_natCast, hlen]
      cases (reflect t)[m]? <;> rfl
    · exact pairAt_of_neg _ hm
  · obtain ⟨n, rfl⟩ := Int.eq_ofNat_of_zero_le hpos
    rcases Nat.lt_or_ge (n + 1) t.length with hn | hn
    · have hi : (t.length : Int) - 2 - (n : Int) = ((t.length - 2 - n : Nat) : Int) := by omega
      have hj : t.length - 1 - (t.length - 2 - n) = n + 1 := by omega
      have hk : t.length - 1 - (t.length - 2 - n + 1) = n := by omega
      rw [hi, pairAt_natCast, pairAt_natCast, getElem?_reflect (by omega),
        getElem?_reflect (by omega), hj, hk, List.getElem?_eq_getElem hn,
        List.getElem?_eq_getElem (by omega : n < t.length)]
      exact isPair_turn _ _
    · have hlen : t[n + 1]? = none := List.getElem?_eq_none hn
      have hi : (t.length : Int) - 2 - (n : Int) < 0 := by omega
      rw [pairAt_of_neg _ hi, pairAt_natCast, hlen]
      cases t[n]? <;> rfl

/-- Turning the code points of two texts keeps their agreement. -/
theorem agreement_map_turn (a b : Text) :
    agreement (a.map turn) (b.map turn) = agreement a b := by
  fun_induction agreement a b with
  | case1 c s t ih => simp only [List.map_cons, agreement, ↓reduceIte, ih]
  | case2 c s d t h =>
    have hne : turn c ≠ turn d := fun he => h (turn_injective he)
    simp only [List.map_cons, agreement, if_neg hne]
  | case3 a b h =>
    cases a with
    | nil => rfl
    | cons c s =>
      cases b with
      | nil => rfl
      | cons d t => exact absurd rfl (h c s d t rfl)

/-- The shared end that splits no pair is as long as the shared start of the
reflections. -/
theorem endLength_eq_startLength (a b : Text) :
    endLength a b = startLength (reflect a) (reflect b) := by
  have hn : (endScan a b).length = agreement (reflect a) (reflect b) := by
    rw [length_endScan, reflect, reflect, ← List.map_reverse, ← List.map_reverse,
      agreement_map_turn]
  have hi : ∀ (t : Text) (n : Nat),
      pairAt (reflect t) ((n : Int) - 1) = pairAt t ((t.length : Int) - n - 1) := by
    intro t n
    rw [← pairAt_reflect t]
    congr 1
    omega
  simp only [endLength, startLength, hn, hi]

/-- Reflecting a beginning of the reflection gives an end of the text. -/
theorem reflect_take_reflect (t : Text) (n : Nat) :
    reflect ((reflect t).take n) = t.drop (t.length - n) := by
  have ht : t.map turn = (reflect t).reverse := by rw [reflect, List.reverse_reverse]
  rw [reflect, ← List.map_reverse, List.reverse_take, ← ht, List.map_drop, List.map_map,
    length_reflect]
  have hid : t.map (turn ∘ turn) = t := by
    conv => rhs; rw [← List.map_id t]
    exact List.map_congr_left fun c _ => turn_turn c
  rw [hid]

/-- The common end of two texts is the reflection of the common start of their
reflections. -/
theorem commonEnd_eq_reflect (a b : Text) :
    commonEnd a b = reflect (commonStart (reflect a) (reflect b)) := by
  rw [commonEnd, commonStart, reflect_take_reflect, endLength_eq_startLength]

/-- An ending that begins with no low surrogate is part of the common end. -/
theorem commonEnd_append {u : Text} (hu : ∀ c ∈ u.head?, isLow c = false) (a b : Text) :
    commonEnd (a ++ u) (b ++ u) = commonEnd a b ++ u := by
  have hr : ∀ c ∈ (reflect u).getLast?, isHigh c = false := by
    intro c hc
    rw [reflect, List.getLast?_reverse, List.head?_map] at hc
    obtain ⟨d, hd, rfl⟩ := Option.map_eq_some_iff.mp hc
    rw [isHigh_turn]
    exact hu d hd
  rw [commonEnd_eq_reflect, reflect_append, reflect_append, commonStart_append hr,
    reflect_append, reflect_reflect, ← commonEnd_eq_reflect]

/-- Texts that differ in their last code points have no common end. -/
theorem commonEnd_eq_nil_of_ne {c d : Nat} (h : c ≠ d) (a b : Text) :
    commonEnd (a ++ [c]) (b ++ [d]) = [] := by
  have hne : turn c ≠ turn d := fun he => h (turn_injective he)
  rw [commonEnd_eq_reflect, reflect_append, reflect_append]
  exact congrArg reflect (commonStart_eq_nil_of_ne hne _ _)

/-- The empty text has no end to share. -/
theorem commonEnd_nil_left (t : Text) : commonEnd [] t = [] := by
  rw [commonEnd_eq_reflect]
  exact congrArg reflect (commonStart_nil_left _)

/-- Nothing ends like the empty text. -/
theorem commonEnd_nil_right (t : Text) : commonEnd t [] = [] := by
  rw [commonEnd_eq_reflect]
  exact congrArg reflect (commonStart_nil_right _)

/-- Texts that only share the low surrogate of a pair have no common end. -/
theorem commonEnd_eq_nil_of_half {h g l : Nat} (hh : isHigh h = true) (hl : isLow l = true)
    (hg : h ≠ g) (a b : Text) : commonEnd (a ++ [h, l]) (b ++ [g, l]) = [] := by
  have hh' : isLow (turn h) = true := by rw [isLow_turn]; exact hh
  have hl' : isHigh (turn l) = true := by rw [isHigh_turn]; exact hl
  have hne : turn h ≠ turn g := fun he => hg (turn_injective he)
  rw [commonEnd_eq_reflect, reflect_append, reflect_append]
  exact congrArg reflect (commonStart_eq_nil_of_half hl' hh' hne _ _)

end LenientText.Text
