import LenientText.Text.Basic

/-!
# Surrogate code points and the pairs they form

The high surrogates are U+D800 to U+DBFF, the low ones U+DC00 to U+DFFF. A pair
stands at an index where a high surrogate is directly followed by a low one. The
test looks at these two places only. That it nevertheless finds exactly the
units of a reading of the whole text is shown in `LenientText.Proofs.Text.Segments`.
-/

namespace LenientText.Text

/-- The smallest high surrogate. -/
abbrev highMin : Nat := 0xD800

/-- The largest high surrogate. -/
abbrev highMax : Nat := 0xDBFF

/-- The smallest low surrogate. -/
abbrev lowMin : Nat := 0xDC00

/-- The largest low surrogate. -/
abbrev lowMax : Nat := 0xDFFF

/-- A high surrogate leads a pair. -/
def isHigh (c : Nat) : Bool := highMin ≤ c && c ≤ highMax

/-- A low surrogate trails in a pair. -/
def isLow (c : Nat) : Bool := lowMin ≤ c && c ≤ lowMax

/-- A surrogate of either kind. -/
def isSurrogate (c : Nat) : Bool := isHigh c || isLow c

/-- Two neighbours that form a pair. -/
def isPair (a b : Nat) : Bool := isHigh a && isLow b

/-- Whether a pair starts at an index. Negative indices and those too near the
end of the text start none. -/
def pairAt (t : Text) : Int → Bool
  | .ofNat n =>
    match t.drop n with
    | a :: b :: _ => isPair a b
    | _ => false
  | .negSucc _ => false

/-- Whether a text consists of one high surrogate. -/
def isSingleHigh : Text → Bool
  | [c] => isHigh c
  | _ => false

/-- Whether a text consists of one low surrogate. -/
def isSingleLow : Text → Bool
  | [c] => isLow c
  | _ => false

/-- A high surrogate lies in its range. -/
theorem isHigh_iff (c : Nat) : isHigh c = true ↔ 0xD800 ≤ c ∧ c ≤ 0xDBFF := by
  simp only [isHigh, highMin, highMax, Bool.and_eq_true, decide_eq_true_eq]

/-- A low surrogate lies in its range. -/
theorem isLow_iff (c : Nat) : isLow c = true ↔ 0xDC00 ≤ c ∧ c ≤ 0xDFFF := by
  simp only [isLow, lowMin, lowMax, Bool.and_eq_true, decide_eq_true_eq]

/-- No code point both leads and trails. -/
theorem not_isLow_of_isHigh {c : Nat} (h : isHigh c = true) : isLow c = false := by
  rw [isHigh_iff] at h
  rw [← Bool.not_eq_true, isLow_iff]
  omega

/-- No code point that trails also leads. -/
theorem not_isHigh_of_isLow {c : Nat} (h : isLow c = true) : isHigh c = false := by
  rw [isLow_iff] at h
  rw [← Bool.not_eq_true, isHigh_iff]
  omega

/-- At a natural index the test reads the two code points that stand there. -/
theorem pairAt_natCast (t : Text) (n : Nat) :
    pairAt t (n : Int) = match t[n]?, t[n + 1]? with
      | some a, some b => isPair a b
      | _, _ => false := by
  induction t generalizing n with
  | nil => cases n <;> rfl
  | cons c rest ih =>
    cases n with
    | zero => cases rest <;> rfl
    | succ n => exact ih n

/-- A negative index starts no pair. -/
theorem pairAt_of_neg (t : Text) {i : Int} (h : i < 0) : pairAt t i = false := by
  cases i with
  | ofNat n => exact absurd h (by simp only [Int.ofNat_eq_natCast]; omega)
  | negSucc n => rfl

/-- An index behind which less than two code points stand starts no pair. -/
theorem pairAt_of_length_lt {t : Text} {i : Int} (h : (t.length : Int) < i + 2) :
    pairAt t i = false := by
  cases i with
  | ofNat n =>
    have hnone : t[n + 1]? = none := by
      rw [Int.ofNat_eq_natCast] at h
      exact List.getElem?_eq_none (by omega)
    rw [Int.ofNat_eq_natCast, pairAt_natCast, hnone]
    cases t[n]? <;> rfl
  | negSucc n => rfl

end LenientText.Text
