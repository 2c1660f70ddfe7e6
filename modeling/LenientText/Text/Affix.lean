import LenientText.Text.Surrogate

/-!
# Common starts and ends of two texts

The common start of two texts is the longest text that both start with, less its
last code point where a cut behind it would split a surrogate pair of either
text. The common end is formed in the same way from the other side, by indices
that run down from the ends; the indices read are kept. One step back is enough,
since two pairs never overlap.
-/

namespace LenientText.Text

/-- How many leading code points two texts share. -/
def agreement : Text → Text → Nat
  | a :: s, b :: t => if a = b then agreement s t + 1 else 0
  | _, _ => 0

/-- The length of the longest shared start that splits no pair. -/
def startLength (a b : Text) : Nat :=
  let n := agreement a b
  if pairAt a ((n : Int) - 1) || pairAt b ((n : Int) - 1) then n - 1 else n

/-- The longest start of both texts that splits no surrogate pair of either. -/
def commonStart (a b : Text) : Text := a.take (startLength a b)

/-- The code point at an index, if the index lies in the text. -/
def at? (t : Array Nat) : Int → Option Nat
  | .ofNat n => t[n]?
  | .negSucc _ => none

/-- What comparing two texts from their ends yields. -/
structure EndScan where
  /-- How many code points at the ends agree. -/
  length : Nat
  /-- The index pairs that were read, in order. -/
  probes : List (Int × Int)
deriving DecidableEq, Repr

/-- Compares two texts from their ends, where so many steps are left and so many
code points have agreed. -/
def endScanFrom (a b : Array Nat) : Nat → Nat → EndScan
  | 0, n => ⟨n, []⟩
  | left + 1, n =>
    let i : Int := (a.size : Int) - n - 1
    let j : Int := (b.size : Int) - n - 1
    if at? a i = at? b j then
      let rest := endScanFrom a b left (n + 1)
      ⟨rest.length, (i, j) :: rest.probes⟩
    else ⟨n, [(i, j)]⟩

/-- Compares two texts from their ends, as far as the shorter one goes. -/
def endScan (a b : Text) : EndScan :=
  endScanFrom a.toArray b.toArray (min a.length b.length) 0

/-- The length of the longest shared end that splits no pair. The pair that a cut
before the shared end would split starts one index before that cut. -/
def endLength (a b : Text) : Nat :=
  let n := (endScan a b).length
  if pairAt a ((a.length : Int) - n - 1) || pairAt b ((b.length : Int) - n - 1) then n - 1 else n

/-- The longest end of both texts that splits no surrogate pair of either. -/
def commonEnd (a b : Text) : Text := a.drop (a.length - endLength a b)

/-- The shared start is not longer than the first text. -/
theorem agreement_le_left (a b : Text) : agreement a b ≤ a.length := by
  fun_induction agreement a b with
  | case1 s c t ih => simp only [List.length_cons]; omega
  | case2 => omega
  | case3 => omega

/-- Agreement does not depend on the order of the texts. -/
theorem agreement_comm (a b : Text) : agreement a b = agreement b a := by
  induction a generalizing b with
  | nil => cases b <;> rfl
  | cons c s ih =>
    cases b with
    | nil => rfl
    | cons d t =>
      simp only [agreement]
      by_cases h : c = d
      · subst h; simp only [↓reduceIte, ih t]
      · rw [if_neg h, if_neg (Ne.symm h)]

/-- The agreeing starts are equal. -/
theorem take_agreement (a b : Text) : a.take (agreement a b) = b.take (agreement a b) := by
  fun_induction agreement a b with
  | case1 s c t ih => simp only [List.take_succ_cons, ih]
  | case2 => simp only [List.take_zero]
  | case3 => simp only [List.take_zero]

/-- An index counted from the end reads the reversed text from its start. -/
theorem at?_from_end (t : Text) {n : Nat} (h : n < t.length) :
    at? t.toArray ((t.length : Int) - n - 1) = t.reverse[n]? := by
  have hi : (t.length : Int) - n - 1 = ((t.length - 1 - n : Nat) : Int) := by omega
  rw [hi, List.getElem?_reverse h]
  exact List.getElem?_toArray

/-- A scan that is not yet done adds what the rests of the reversed texts share. -/
theorem length_endScanFrom (a b : Text) (left n : Nat) (h : left + n = min a.length b.length) :
    (endScanFrom a.toArray b.toArray left n).length =
      n + agreement (a.reverse.drop n) (b.reverse.drop n) := by
  induction left generalizing n with
  | zero =>
    have hnil : a.reverse.drop n = [] ∨ b.reverse.drop n = [] := by
      rcases Nat.le_total a.length b.length with hl | hl
      · exact .inl (List.drop_eq_nil_of_le (by simp only [List.length_reverse]; omega))
      · exact .inr (List.drop_eq_nil_of_le (by simp only [List.length_reverse]; omega))
    have hz : agreement (a.reverse.drop n) (b.reverse.drop n) = 0 := by
      rcases hnil with hn | hn
      · rw [hn]; rfl
      · rw [hn]; cases a.reverse.drop n <;> rfl
    rw [hz]
    rfl
  | succ left ih =>
    have ha : n < a.length := by omega
    have hb : n < b.length := by omega
    have ha' : n < a.reverse.length := by rw [List.length_reverse]; exact ha
    have hb' : n < b.reverse.length := by rw [List.length_reverse]; exact hb
    rw [List.drop_eq_getElem_cons ha', List.drop_eq_getElem_cons hb']
    simp only [endScanFrom, List.size_toArray, at?_from_end a ha, at?_from_end b hb,
      List.getElem?_eq_getElem ha',
      List.getElem?_eq_getElem hb', Option.some.injEq, agreement]
    split
    · rw [ih (n + 1) (by omega)]
      omega
    · rfl

/-- Scanning from the ends finds what the reversed texts share at their starts. -/
theorem length_endScan (a b : Text) :
    (endScan a b).length = agreement a.reverse b.reverse := by
  rw [endScan, length_endScanFrom a b _ 0 (by omega), Nat.zero_add]
  rfl

end LenientText.Text
