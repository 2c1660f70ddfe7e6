import LenientText.Number.Numeral

/-!
# Reading numerals

A text is read in a base digit by digit, the most significant first. Every numeral is read
back as the number that it was written for. In base sixteen a numeral consists of figures and
of the small letters up to `f`, and begins with a zero only if it is that of zero.
-/

namespace LenientText.Numeral

/-- The digit that a code point stands for. Small letters stand for the digits from ten on. -/
def digit? (c : Nat) : Option Nat :=
  if 0x30 ≤ c ∧ c ≤ 0x39 then some (c - 0x30)
  else if 0x61 ≤ c ∧ c ≤ 0x7a then some (c - 0x57)
  else none

/-- The number that a text denotes in a base. It needs a digit at least, and all of its code
points have to be digits below the base. -/
def read? (base : Nat) (t : Text) : Option Nat :=
  if t = [] then none
  else (t.mapM fun c => (digit? c).filter (· < base)).map (value base)

variable {base : Nat}

/-- The glyph of a digit stands for this digit. -/
theorem digit?_glyph {d : Nat} (h : d < 36) : digit? (glyph d) = some d := by
  unfold digit? glyph
  by_cases hsmall : d < 10
  · rw [if_pos hsmall, if_pos (by omega), Nat.add_sub_cancel_left]
  · rw [if_neg hsmall, if_neg (by omega), if_pos (by omega), Nat.add_sub_cancel_left]

/-- The glyphs of digits below a base are read as these digits. -/
theorem mapM_digit?_map_glyph (hbase : base ≤ 36) {ds : List Nat} (h : ∀ d ∈ ds, d < base) :
    (ds.map glyph).mapM (fun c => (digit? c).filter (· < base)) = some ds := by
  induction ds with
  | nil => rfl
  | cons d ds ih =>
    rw [List.forall_mem_cons] at h
    have hd : (digit? (glyph d)).filter (· < base) = some d := by
      rw [digit?_glyph (by omega), Option.filter_some, if_pos (decide_eq_true h.1)]
    rw [List.map_cons, List.mapM_cons, hd, ih h.2]
    rfl

/-- Reading the numeral of a number gives the number. -/
theorem read?_text (hb : 2 ≤ base) (hbase : base ≤ 36) (n : Nat) :
    read? base (text base n) = some n := by
  have hne : text base n ≠ [] := by
    intro hnil
    exact digits_ne_nil base n (List.map_eq_nil_iff.mp hnil)
  rw [read?, if_neg hne, text, mapM_digit?_map_glyph hbase (digit_lt hb n), Option.map_some,
    value_digits]

/-- A number whose numeral begins with the digit zero is zero. -/
theorem eq_zero_of_head?_digits (hb : 2 ≤ base) {n : Nat} (h : (digits base n).head? = some 0) :
    n = 0 := by
  fun_induction digits base n with
  | case1 n hsmall => exact Option.some.inj h
  | case2 n hlarge ih =>
    have hhead : (digits base (n / base) ++ [n % base]).head? = (digits base (n / base)).head? := by
      cases hds : digits base (n / base) with
      | nil => exact absurd hds (digits_ne_nil base (n / base))
      | cons d ds => rfl
    have hdiv : n / base = 0 := ih (hhead.symm.trans h)
    have hlt : n < base := (Nat.div_eq_zero_iff_lt (by omega)).mp hdiv
    exact absurd (.inr hlt) hlarge

/-- A text is the numeral of a number in base sixteen. -/
structure IsHex (t : Text) (n : Nat) : Prop where
  /-- There is a digit. -/
  ne_nil : t ≠ []
  /-- The digits are figures and the small letters up to `f`. -/
  isDigit : ∀ c ∈ t, 0x30 ≤ c ∧ c ≤ 0x39 ∨ 0x61 ≤ c ∧ c ≤ 0x66
  /-- There is no leading zero, unless there is nothing but the zero. -/
  eq_zero : t.head? = some 0x30 → t = [0x30]
  /-- Reading it gives the number. -/
  read?_eq : read? 16 t = some n

/-- Numbers are written in base sixteen by their numerals. -/
theorem isHex_hex (n : Nat) : IsHex (hex n) n where
  ne_nil := by
    intro hnil
    exact digits_ne_nil 16 n (List.map_eq_nil_iff.mp hnil)
  isDigit := by
    intro c hc
    obtain ⟨d, hd, rfl⟩ := List.mem_map.mp hc
    have hlt : d < 16 := digit_lt (by decide) n d hd
    unfold glyph
    split <;> omega
  eq_zero := by
    intro hhead
    have hdigit : (digits 16 n).head? = some 0 := by
      rw [hex, text, List.head?_map] at hhead
      obtain ⟨d, hd, hglyph⟩ := Option.map_eq_some_iff.mp hhead
      have hzero : d = 0 := by
        unfold glyph at hglyph
        split at hglyph <;> omega
      rw [hd, hzero]
    rw [eq_zero_of_head?_digits (by decide) hdigit, hex, text, digits, dif_pos (by decide)]
    rfl
  read?_eq := read?_text (by decide) (by decide) n

/-- A code point that is neither a figure nor a small letter up to `f` stands in no numeral. -/
theorem IsHex.not_mem {t : Text} {n c : Nat} (h : IsHex t n)
    (hc : ¬(0x30 ≤ c ∧ c ≤ 0x39 ∨ 0x61 ≤ c ∧ c ≤ 0x66)) : c ∉ t :=
  fun hmem => hc (h.isDigit c hmem)

end LenientText.Numeral
