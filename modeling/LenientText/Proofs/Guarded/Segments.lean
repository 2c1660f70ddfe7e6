import LenientText.Proofs.Guarded.WholeAffixes
import LenientText.Proofs.Text.Segments

/-!
# Text objects are read in units without ambiguity

The guarded test for a pair looks at two code points of a text object, at any index, in the
text or not. It agrees with the two readings of the whole text, from the left and from the
right, which are the same. This is why the operations on common starts and ends need to
step back no more than once: where the code point before a cut leads no pair, the cut
splits no unit of the text.
-/

namespace LenientText.Guarded

open Run

/-- How a text is read in units, and what the test for a pair has to do with it when it is
asked about an object that holds the text. -/
structure IsReadUnambiguously (check : Checker) (s : Session) (o : Obj) (t : Text) : Prop where
  /-- The test answers at every index, and has no effect. -/
  run_pairAt : ∀ {k : Obj} {i : Int}, s.store.IsInteger k i →
    (pairAt check o k).run s = (.ok (t.pairAt i), s)
  /-- It finds a high surrogate with a low one right behind it, and reads nothing else. -/
  pairAt_iff : ∀ i : Int, t.pairAt i = true ↔ ∃ (n : Nat) (a b : Nat), i = n ∧
    t[n]? = some a ∧ t[n + 1]? = some b ∧ (0xD800 ≤ a ∧ a ≤ 0xDBFF) ∧ 0xDC00 ≤ b ∧ b ≤ 0xDFFF
  /-- The units read from the right are those read from the left. -/
  unitsFromEnd_eq : t.unitsFromEnd = t.unitsFromStart
  /-- They are the only way to take the text apart into pairs and single code points in which
  no pair is left apart. -/
  isReading_iff : ∀ us, Text.IsReading us t ↔ us = t.unitsFromStart
  /-- The units of two code points start at the indices at which the test finds a pair. -/
  mem_pairStarts_iff : ∀ i : Int,
    (∃ n ∈ Text.pairStarts 0 t.unitsFromStart, (n : Int) = i) ↔ t.pairAt i = true
  /-- No two of these indices are adjacent. -/
  pairAt_succ : ∀ i : Int, t.pairAt i = true → t.pairAt (i + 1) = false
  /-- A position, in the text or not, splits no unit exactly if the test finds no pair one
  index before it. -/
  not_splitsUnit_iff : ∀ k : Int, ¬Text.SplitsUnit t.unitsFromStart k ↔ t.pairAt (k - 1) = false
  /-- The positions in the text that split no unit are the boundaries of the units. -/
  mem_boundaries_iff : ∀ k : Nat, k ∈ Text.boundaries 0 t.unitsFromStart ↔
    k ≤ t.length ∧ t.pairAt ((k : Int) - 1) = false

/-- Every text object is read without ambiguity, whatever surrogates it holds. -/
theorem isReadUnambiguously {check : Checker} (hcheck : check.IsSound) {s : Session} {o : Obj}
    {t : Text} (ho : s.store.IsText o t) : IsReadUnambiguously check s o t where
  run_pairAt := fun hk => run_pairAt hcheck ho hk
  pairAt_iff := fun _ => Text.pairAt_eq_true_iff
  unitsFromEnd_eq := Text.unitsFromEnd_eq t
  isReading_iff := fun _ => Text.isReading_iff
  mem_pairStarts_iff := fun _ => Text.pairAt_iff_mem_pairStarts.symm
  pairAt_succ := fun _ => Text.pairAt_succ_of_pairAt
  not_splitsUnit_iff := fun _ => Text.not_splitsUnit_iff
  mem_boundaries_iff := fun _ => Text.mem_boundaries_unitsFromStart

/-- Two high surrogates and two low ones in a row, with a lone low surrogate before them and
a lone high one at the end. -/
def tangledText : Text := [0xDE00, 0xD83D, 0xD83D, 0xDE00, 0xDE00, 0x61, 0xD83D]

/-- A session with this text, the index at which its only pair starts, the next one, and
indices before the start of the text and at its end. -/
def tangledSession : Session :=
  { Session.start 0 with
    store := ⟨#[⟨.known .text, .text tangledText⟩, ⟨.known .integer, .integer 2⟩,
      ⟨.known .integer, .integer 3⟩, ⟨.known .integer, .integer (-1)⟩,
      ⟨.known .integer, .integer 6⟩]⟩ }

/-- Read from the right as well, the inner two surrogates are a unit and all others stand
alone. Only the position between the two splits a unit. -/
theorem isReadUnambiguously_tangled :
    tangledText.unitsFromEnd = [[0xDE00], [0xD83D], [0xD83D, 0xDE00], [0xDE00], [0x61], [0xD83D]] ∧
      (pairAt .strict (.cell 0) (.cell 1)).run tangledSession = (.ok true, tangledSession) ∧
      (pairAt .strict (.cell 0) (.cell 2)).run tangledSession = (.ok false, tangledSession) ∧
      (pairAt .strict (.cell 0) (.cell 3)).run tangledSession = (.ok false, tangledSession) ∧
      (pairAt .strict (.cell 0) (.cell 4)).run tangledSession = (.ok false, tangledSession) ∧
      ∀ k : Int, Text.SplitsUnit tangledText.unitsFromStart k ↔ k = 3 := by
  have h : IsReadUnambiguously .strict tangledSession (.cell 0) tangledText :=
    isReadUnambiguously Checker.isSound_strict (Store.isText_of_entity rfl)
  have hunits : tangledText.unitsFromStart =
      [[0xDE00], [0xD83D], [0xD83D, 0xDE00], [0xDE00], [0x61], [0xD83D]] := by decide
  have hpair : ∀ i : Int, tangledText.pairAt i = true ↔ i = 2 := by
    intro i
    have hstarts : Text.pairStarts 0 tangledText.unitsFromStart = [2] := by decide
    rw [← h.mem_pairStarts_iff, hstarts]
    simp only [List.mem_singleton, exists_eq_left, eq_comm]
    exact Iff.rfl
  have hnone : ∀ i : Int, i ≠ 2 → tangledText.pairAt i = false := by
    intro i hi
    rw [← Bool.not_eq_true, hpair]
    exact hi
  refine ⟨h.unitsFromEnd_eq.trans hunits, ?_, ?_, ?_, ?_, ?_⟩
  · rw [h.run_pairAt (i := 2) (Store.isInteger_of_entity rfl), (hpair 2).mpr rfl]
  · rw [h.run_pairAt (i := 3) (Store.isInteger_of_entity rfl), hnone 3 (by decide)]
  · rw [h.run_pairAt (i := -1) (Store.isInteger_of_entity rfl), hnone (-1) (by decide)]
  · rw [h.run_pairAt (i := 6) (Store.isInteger_of_entity rfl), hnone 6 (by decide)]
  · intro k
    rw [← not_iff_not, h.not_splitsUnit_iff, ← Bool.not_eq_true, hpair]
    omega

end LenientText.Guarded
