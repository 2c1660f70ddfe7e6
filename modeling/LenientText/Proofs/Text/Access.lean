import LenientText.Text.Affix

/-!
# Every index of the common end lies in its text

The common end is formed by indices that run down from the ends of two texts, whose
lengths may differ. Here it is formed once more in the same steps, but with an access
that fails at an index outside of the text, and with a cut that fails outside of its
bounds. Nothing fails, and the result is the common end. The scan keeps the indices that
it reads, and they are the same ones.
-/

namespace LenientText.Text

/-- The scan from the ends with an access that fails outside of the texts. -/
def strictScanFrom (a b : Array Nat) : Nat → Nat → Option EndScan
  | 0, n => return ⟨n, []⟩
  | left + 1, n => do
    let i : Int := (a.size : Int) - n - 1
    let j : Int := (b.size : Int) - n - 1
    let c ← at? a i
    let d ← at? b j
    if c = d then
      let rest ← strictScanFrom a b left (n + 1)
      return ⟨rest.length, (i, j) :: rest.probes⟩
    else return ⟨n, [(i, j)]⟩

/-- The test for a pair with an access that fails outside of the text. The range of the
index is looked at first, and the second code point only behind a high surrogate. -/
def strictPairAt (t : Array Nat) (i : Int) : Option Bool :=
  if 0 ≤ i ∧ i ≤ (t.size : Int) - 2 then do
    let c ← at? t i
    if isHigh c then
      let d ← at? t (i + 1)
      return isLow d
    else return false
  else return false

/-- Whether a pair starts at an index of the first text, or else at one of the second,
which is only looked at then. -/
def strictEither (a b : Array Nat) (i j : Int) : Option Bool := do
  if ← strictPairAt a i then return true else strictPairAt b j

/-- The part of a text from a cut on, if the cut lies in the text. -/
def strictDrop (t : Text) (cut : Int) : Option Text :=
  if 0 ≤ cut ∧ cut ≤ t.length then some (t.drop cut.toNat) else none

/-- The common end with accesses and a cut that fail outside of the texts. -/
def strictEnd (a b : Text) : Option Text := do
  let scan ← strictScanFrom a.toArray b.toArray (min a.length b.length) 0
  let i : Int := (a.length : Int) - scan.length - 1
  let j : Int := (b.length : Int) - scan.length - 1
  let splits ← strictEither a.toArray b.toArray i j
  let length : Int := if splits then (scan.length : Int) - 1 else scan.length
  strictDrop a ((a.length : Int) - length)

/-- An access in the text does not fail. -/
theorem at?_natCast (t : Text) {n : Nat} (h : n < t.length) :
    at? t.toArray (n : Int) = some t[n] := by
  change t.toArray[n]? = some t[n]
  rw [List.getElem?_toArray, List.getElem?_eq_getElem h]

/-- A scan reads as many code points as there are in the shorter text at most, so it does
not fail. -/
theorem strictScanFrom_eq (a b : Text) {left n : Nat}
    (h : left + n ≤ min a.length b.length) :
    strictScanFrom a.toArray b.toArray left n =
      some (endScanFrom a.toArray b.toArray left n) := by
  induction left generalizing n with
  | zero => rfl
  | succ left ih =>
    have hread : ∀ t : Text, n < t.length →
        ∃ c, at? t.toArray ((t.toArray.size : Int) - n - 1) = some c := by
      intro t ht
      have hindex : (t.toArray.size : Int) - n - 1 = ((t.length - 1 - n : Nat) : Int) := by
        rw [List.size_toArray]
        omega
      rw [hindex]
      exact ⟨_, at?_natCast t (by omega)⟩
    obtain ⟨c, hc⟩ := hread a (by omega)
    obtain ⟨d, hd⟩ := hread b (by omega)
    rw [strictScanFrom, endScanFrom]
    dsimp only
    rw [hc, hd, Option.bind_eq_bind, Option.bind_some, Option.bind_eq_bind, Option.bind_some]
    by_cases heq : c = d
    · rw [if_pos heq, if_pos (congrArg some heq), ih (by omega)]
      rfl
    · rw [if_neg heq, if_neg fun hsome => heq (Option.some.inj hsome)]
      rfl

/-- The indices that the scan keeps lie in the texts. -/
theorem mem_probes_endScanFrom (a b : Text) {left n : Nat} {q : Int × Int}
    (h : left + n ≤ min a.length b.length)
    (hq : q ∈ (endScanFrom a.toArray b.toArray left n).probes) :
    (0 ≤ q.1 ∧ q.1 < a.length) ∧ 0 ≤ q.2 ∧ q.2 < b.length := by
  induction left generalizing n with
  | zero => cases hq
  | succ left ih =>
    have hfirst : q = ((a.toArray.size : Int) - n - 1, (b.toArray.size : Int) - n - 1) →
        (0 ≤ q.1 ∧ q.1 < a.length) ∧ 0 ≤ q.2 ∧ q.2 < b.length := by
      rintro rfl
      rw [List.size_toArray, List.size_toArray]
      omega
    rw [endScanFrom] at hq
    dsimp only at hq
    split at hq
    · rcases List.mem_cons.mp hq with hq | hq
      · exact hfirst hq
      · exact ih (by omega) hq
    · exact hfirst (List.mem_singleton.mp hq)

/-- The test for a pair reads no index outside of the text. -/
theorem strictPairAt_eq (t : Text) (i : Int) : strictPairAt t.toArray i = some (pairAt t i) := by
  unfold strictPairAt
  split
  · next hrange =>
    obtain ⟨n, rfl⟩ := Int.eq_ofNat_of_zero_le hrange.1
    have hn : n + 1 < t.length := by
      rw [List.size_toArray] at hrange
      omega
    have hsucc : (n : Int) + 1 = ((n + 1 : Nat) : Int) := by omega
    rw [hsucc, at?_natCast t (by omega), at?_natCast t hn, pairAt_natCast,
      List.getElem?_eq_getElem hn, List.getElem?_eq_getElem (by omega : n < t.length)]
    simp only [Option.bind_eq_bind, Option.bind_some, isPair]
    cases isHigh t[n] <;> rfl
  · next hrange =>
    rw [List.size_toArray] at hrange
    rcases Int.lt_or_le i 0 with hneg | hpos
    · rw [pairAt_of_neg t hneg]
      rfl
    · rw [pairAt_of_length_lt (by omega)]
      rfl

/-- Neither do the tests of both texts. -/
theorem strictEither_eq (a b : Text) (i j : Int) :
    strictEither a.toArray b.toArray i j = some (pairAt a i || pairAt b j) := by
  rw [strictEither, strictPairAt_eq, strictPairAt_eq, Option.bind_eq_bind, Option.bind_some]
  cases pairAt a i <;> rfl

/-- A cut in the text does not fail. -/
theorem strictDrop_natCast (t : Text) {n : Nat} (h : n ≤ t.length) :
    strictDrop t (n : Int) = some (t.drop n) := by
  rw [strictDrop, if_pos (by omega), Int.toNat_natCast]

/-- The scan does not count more code points than the first text has. -/
theorem length_endScan_le (a b : Text) : (endScan a b).length ≤ a.length := by
  have hle := agreement_le_left a.reverse b.reverse
  rw [List.length_reverse] at hle
  rw [length_endScan]
  exact hle

/-- Nothing fails on the way to the common end. A code point is only taken back from an
agreement that is not empty, so the cut lies in the text as well. -/
theorem strictEnd_eq (a b : Text) : strictEnd a b = some (commonEnd a b) := by
  have hscan : strictScanFrom a.toArray b.toArray (min a.length b.length) 0 =
      some (endScan a b) := strictScanFrom_eq a b (by omega)
  have hle := length_endScan_le a b
  rw [strictEnd, hscan, Option.bind_eq_bind, Option.bind_some]
  dsimp only
  rw [strictEither_eq, Option.bind_eq_bind, Option.bind_some, commonEnd, endLength]
  split
  · next hpair =>
    have hpos : 0 < (endScan a b).length := by
      rcases Nat.eq_zero_or_pos (endScan a b).length with hzero | hpos
      · have hlast : ∀ t : Text, pairAt t ((t.length : Int) - (0 : Nat) - 1) = false :=
          fun t => pairAt_of_length_lt (by omega)
        rw [hzero, hlast, hlast] at hpair
        cases hpair
      · exact hpos
    have hcut : (a.length : Int) - ((endScan a b).length - 1) =
        ((a.length - ((endScan a b).length - 1) : Nat) : Int) := by omega
    rw [hcut, strictDrop_natCast a (by omega)]
  · have hcut : (a.length : Int) - (endScan a b).length =
        ((a.length - (endScan a b).length : Nat) : Int) := by omega
    rw [hcut, strictDrop_natCast a (by omega)]

end LenientText.Text
