import LenientText.Proofs.Guarded.Affixes
import LenientText.Proofs.Text.Access
import LenientText.Proofs.Text.Cut

/-!
# What two text objects share as a whole

On two texts the guarded operations give the longest start, or end, that both texts have
in common and that a cut takes off without splitting a surrogate pair of either. The test
for a pair, which is offered to callers too, confirms this at the cut in each text. No
more than one code point is given up for it. At the ends all indices are counted down
from lengths that may differ, and none of them leaves its text.
-/

namespace LenientText.Guarded

open Run

variable {check : Checker} {s : Session} {a b : Obj} {x y : Text}

/-- At an integer the guarded test looks for a pair without any effect. -/
theorem run_pairAt (hcheck : check.IsSound) {o k : Obj} {t : Text} {i : Int}
    (ho : s.store.IsText o t) (hk : s.store.IsInteger k i) :
    (pairAt check o k).run s = (.ok (t.pairAt i), s) := by
  have hinteger : s.store.integer? k = some i := by rw [Store.integer?, hk.content_eq]
  rw [pairAt, run_bind_of_ok (hcheck.run_text_of_isText ho),
    run_bind_of_ok (hcheck.run_integer_of_isInteger hk),
    run_bind_of_ok (run_ordered_of_isInteger hk _ _ _),
    run_bind_of_ok (run_truthOf_bool _ s)]
  by_cases hneg : i < 0
  · have hindex : decide (0 ≤ i) = false := decide_eq_false (Int.not_le_of_gt hneg)
    rw [hindex, Text.pairAt_of_neg t hneg]
    rfl
  have hindex : decide (0 ≤ i) = true := decide_eq_true (Int.not_lt.mp hneg)
  rw [hindex, if_neg (by decide), run_bind_of_ok (run_lengthOf_of_isText ho),
    run_bind_of_ok (run_ordered_of_isInteger hk _ _ _), run_bind_of_ok (run_truthOf_bool _ s)]
  by_cases hshort : (t.length : Int) < i + 2
  · have hinside : decide (i + 2 ≤ (t.length : Int)) = false :=
      decide_eq_false (Int.not_le_of_gt hshort)
    rw [hinside, Text.pairAt_of_length_lt hshort]
    rfl
  have hinside : decide (i + 2 ≤ (t.length : Int)) = true := decide_eq_true (Int.not_lt.mp hshort)
  rw [hinside, if_neg (by decide), run_bind_of_ok (run_store s), hinteger, ho.plain_eq]
  rfl

/-- Two texts have a longest common start behind which a cut splits no pair of either, and
it is given. The test for a pair finds none at the last code point of it in either text,
and a shared start that splits pairs is at most one code point longer. -/
theorem run_commonStart_longest (hcheck : check.IsSound) (ha : s.store.IsText a x)
    (hb : s.store.IsText b y) :
    ∃ r, (commonStart check a b).run s = (.ok r, s) ∧
      (r <+: x ∧ r <+: y) ∧ (r.IsWholeStart x ∧ r.IsWholeStart y) ∧
      (∀ k, s.store.IsInteger k ((r.length : Int) - 1) →
        (pairAt check a k).run s = (.ok false, s) ∧ (pairAt check b k).run s = (.ok false, s)) ∧
      (∀ p : Text, p.IsWholeStart x → p.IsWholeStart y → p.length ≤ r.length) ∧
      ∀ p : Text, p <+: x → p <+: y → p.length ≤ r.length + 1 := by
  have hwhole := (Text.isWholeStart_commonStart_iff _ x y).mp (Text.isWholeStart_refl _)
  have hx := Text.isWholeStart_iff.mp hwhole.1
  have hy := Text.isWholeStart_iff.mp hwhole.2
  refine ⟨x.commonStart y, run_commonStart hcheck ha hb, ⟨hx.1, hy.1⟩, hwhole, ?_, ?_, ?_⟩
  · intro k hk
    rw [run_pairAt hcheck ha hk, run_pairAt hcheck hb hk, hx.2, hy.2]
    exact ⟨rfl, rfl⟩
  · intro p hpx hpy
    have hp := (Text.isWholeStart_commonStart_iff p x y).mpr ⟨hpx, hpy⟩
    exact (Text.isWholeStart_iff.mp hp).1.length_le
  · exact fun p => Text.length_le_commonStart

/-- A session with two texts that share a lone low surrogate and two high ones, the second
of which leads a pair in either text, and an index of one. -/
def repeatedSession : Session :=
  { Session.start 0 with
    store := ⟨#[⟨.known .text, .text [0xDE00, 0xD83D, 0xD83D, 0xDE00]⟩,
      ⟨.known .text, .text [0xDE00, 0xD83D, 0xD83D, 0xDE01]⟩,
      ⟨.known .integer, .integer 1⟩]⟩ }

/-- The second high surrogate is given up, and the first one is kept. -/
theorem run_commonStart_longest_repeated :
    (commonStart .strict (.cell 0) (.cell 1)).run repeatedSession =
        (.ok [0xDE00, 0xD83D], repeatedSession) ∧
      (pairAt .strict (.cell 0) (.cell 2)).run repeatedSession = (.ok false, repeatedSession) ∧
      (pairAt .strict (.cell 1) (.cell 2)).run repeatedSession = (.ok false, repeatedSession) := by
  have ha : repeatedSession.store.IsText (.cell 0) _ := Store.isText_of_entity rfl
  have hb : repeatedSession.store.IsText (.cell 1) _ := Store.isText_of_entity rfl
  obtain ⟨r, hr, -, -, hpair, -⟩ := run_commonStart_longest Checker.isSound_strict ha hb
  have hrun : (commonStart .strict (.cell 0) (.cell 1)).run repeatedSession =
      (.ok [0xDE00, 0xD83D], repeatedSession) := rfl
  rw [hrun] at hr
  cases hr
  exact ⟨hrun, hpair (.cell 2) (Store.isInteger_of_entity rfl)⟩

/-- Two texts have a longest common end before which a cut splits no pair of either, and it
is given. The test for a pair finds none at the code point before it in either text, and a
shared end that splits pairs is at most one code point longer. An access that fails outside
of the texts never fails on the way to it, and the scan reads no index outside of them. -/
theorem run_commonEnd_longest (hcheck : check.IsSound) (ha : s.store.IsText a x)
    (hb : s.store.IsText b y) :
    ∃ r, (commonEnd check a b).run s = (.ok r, s) ∧
      (r <:+ x ∧ r <:+ y) ∧ (r.IsWholeEnd x ∧ r.IsWholeEnd y) ∧
      (∀ k, s.store.IsInteger k ((x.length : Int) - r.length - 1) →
        (pairAt check a k).run s = (.ok false, s)) ∧
      (∀ k, s.store.IsInteger k ((y.length : Int) - r.length - 1) →
        (pairAt check b k).run s = (.ok false, s)) ∧
      (∀ p : Text, p.IsWholeEnd x → p.IsWholeEnd y → p.length ≤ r.length) ∧
      (∀ p : Text, p <:+ x → p <:+ y → p.length ≤ r.length + 1) ∧
      x.strictEnd y = some r ∧
      ∀ q ∈ (x.endScan y).probes, (0 ≤ q.1 ∧ q.1 < x.length) ∧ 0 ≤ q.2 ∧ q.2 < y.length := by
  have hwhole := (Text.isWholeEnd_commonEnd_iff _ x y).mp (refl (x.commonEnd y))
  have hx := Text.isWholeEnd_iff.mp hwhole.1
  have hy := Text.isWholeEnd_iff.mp hwhole.2
  refine ⟨x.commonEnd y, run_commonEnd hcheck ha hb, ⟨hx.1, hy.1⟩, hwhole, ?_, ?_, ?_, ?_,
    x.strictEnd_eq y, ?_⟩
  · intro k hk
    rw [run_pairAt hcheck ha hk, hx.2]
  · intro k hk
    rw [run_pairAt hcheck hb hk, hy.2]
  · intro p hpx hpy
    have hp := (Text.isWholeEnd_commonEnd_iff p x y).mpr ⟨hpx, hpy⟩
    exact (Text.isWholeEnd_iff.mp hp).1.length_le
  · exact fun p => Text.length_le_commonEnd
  · intro q hq
    exact Text.mem_probes_endScanFrom x y (by omega) hq

/-- A session with two texts of different lengths that share two low surrogates, the first
of which trails in a pair of either text, and the two indices before the second one. -/
def unevenSession : Session :=
  { Session.start 0 with
    store := ⟨#[⟨.known .text, .text [0xD83D, 0xDE00, 0xDE00, 0x61]⟩,
      ⟨.known .text, .text [0x62, 0x63, 0xD83E, 0xDE00, 0xDE00, 0x61]⟩,
      ⟨.known .integer, .integer 1⟩, ⟨.known .integer, .integer 3⟩]⟩ }

/-- The first low surrogate is given up, and the second one is kept. -/
theorem run_commonEnd_longest_uneven :
    (commonEnd .strict (.cell 0) (.cell 1)).run unevenSession =
        (.ok [0xDE00, 0x61], unevenSession) ∧
      (pairAt .strict (.cell 0) (.cell 2)).run unevenSession = (.ok false, unevenSession) ∧
      (pairAt .strict (.cell 1) (.cell 3)).run unevenSession = (.ok false, unevenSession) ∧
      Text.strictEnd [0xD83D, 0xDE00, 0xDE00, 0x61] [0x62, 0x63, 0xD83E, 0xDE00, 0xDE00, 0x61] =
        some [0xDE00, 0x61] := by
  have ha : unevenSession.store.IsText (.cell 0) _ := Store.isText_of_entity rfl
  have hb : unevenSession.store.IsText (.cell 1) _ := Store.isText_of_entity rfl
  obtain ⟨r, hr, -, -, hfirst, hsecond, -, -, hstrict, -⟩ :=
    run_commonEnd_longest Checker.isSound_strict ha hb
  have hrun : (commonEnd .strict (.cell 0) (.cell 1)).run unevenSession =
      (.ok [0xDE00, 0x61], unevenSession) := rfl
  rw [hrun] at hr
  cases hr
  exact ⟨hrun, hfirst (.cell 2) (Store.isInteger_of_entity rfl),
    hsecond (.cell 3) (Store.isInteger_of_entity rfl), hstrict⟩

end LenientText.Guarded
