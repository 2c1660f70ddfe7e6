import LenientText.Proofs.Guarded.WholeAffixes

/-!
# Text objects and their reflections

The scan for a common end counts indices down from two lengths and gives up a low
surrogate, the scan for a common start counts one index up and gives up a high one. On
text objects the first operation nevertheless gives what reflection makes of the second
one, asked about the reflections. The test for a pair, which both scans ask, gives the
same answer at an index and at the index as far from the other end of the reflection,
also where one of the two, or both, lie outside of the text.
-/

namespace LenientText.Guarded

open Run

variable {check : Checker} {s : Session} {a b c d : Obj} {x y : Text}

/-- The common end of two texts is the reflected common start of their reflections, and a
pair starts at an index of a text exactly if one starts at the reflected index of its
reflection. -/
theorem run_commonEnd_reflect (hcheck : check.IsSound) (ha : s.store.IsText a x)
    (hb : s.store.IsText b y) (hc : s.store.IsText c x.reflect) (hd : s.store.IsText d y.reflect) :
    (∃ r, (commonStart check c d).run s = (.ok r, s) ∧
      (commonEnd check a b).run s = (.ok r.reflect, s)) ∧
    ∀ {e f j k : Obj} {t : Text} {i : Int}, s.store.IsText e t → s.store.IsText f t.reflect →
      s.store.IsInteger j i → s.store.IsInteger k ((t.length : Int) - 2 - i) →
      ∃ v, (pairAt check e j).run s = (.ok v, s) ∧ (pairAt check f k).run s = (.ok v, s) := by
  constructor
  · have hend : x.commonEnd y = (x.reflect.commonStart y.reflect).reflect :=
      Text.commonEnd_eq_reflect x y
    refine ⟨x.reflect.commonStart y.reflect, run_commonStart hcheck hc hd, ?_⟩
    rw [run_commonEnd hcheck ha hb, hend]
  · intro e f j k t i he hf hj hk
    have hpair : t.reflect.pairAt ((t.length : Int) - 2 - i) = t.pairAt i :=
      Text.pairAt_reflect t i
    refine ⟨t.pairAt i, run_pairAt hcheck he hj, ?_⟩
    rw [run_pairAt hcheck hf hk, hpair]

/-- A session with two texts of different lengths that share a low surrogate, which trails
in a pair of the second one only, the reflections of both, and the last index of the first
text with its reflection, which is negative. -/
def reflectedSession : Session :=
  { Session.start 0 with
    store := ⟨#[⟨.known .text, .text [0x61, 0xDE00, 0x62]⟩,
      ⟨.known .text, .text [0x61, 0x63, 0xD83D, 0xDE00, 0x62]⟩,
      ⟨.known .text, .text [0x62, 0xDA00, 0x61]⟩,
      ⟨.known .text, .text [0x62, 0xDA00, 0xDC3D, 0x63, 0x61]⟩,
      ⟨.known .integer, .integer 2⟩, ⟨.known .integer, .integer (-1)⟩]⟩ }

/-- The low surrogate at the ends is given up, and so is the high one that stands for it at
the starts of the reflections. -/
theorem run_commonEnd_reflect_uneven :
    (commonStart .strict (.cell 2) (.cell 3)).run reflectedSession =
        (.ok [0x62], reflectedSession) ∧
      (commonEnd .strict (.cell 0) (.cell 1)).run reflectedSession =
        (.ok (Text.reflect [0x62]), reflectedSession) ∧
      ∃ v, (pairAt .strict (.cell 0) (.cell 4)).run reflectedSession = (.ok v, reflectedSession) ∧
        (pairAt .strict (.cell 2) (.cell 5)).run reflectedSession = (.ok v, reflectedSession) := by
  have hx : reflectedSession.store.IsText (.cell 0) [0x61, 0xDE00, 0x62] :=
    Store.isText_of_entity rfl
  have hx' : reflectedSession.store.IsText (.cell 2) (Text.reflect [0x61, 0xDE00, 0x62]) :=
    Store.isText_of_entity rfl
  have hy : reflectedSession.store.IsText (.cell 1) [0x61, 0x63, 0xD83D, 0xDE00, 0x62] :=
    Store.isText_of_entity rfl
  have hy' : reflectedSession.store.IsText (.cell 3)
      (Text.reflect [0x61, 0x63, 0xD83D, 0xDE00, 0x62]) := Store.isText_of_entity rfl
  obtain ⟨⟨r, hr, hend⟩, hpair⟩ := run_commonEnd_reflect Checker.isSound_strict hx hy hx' hy'
  have hrun : (commonStart .strict (.cell 2) (.cell 3)).run reflectedSession =
      (.ok [0x62], reflectedSession) := rfl
  rw [hrun] at hr
  cases hr
  exact ⟨hrun, hend, hpair (i := 2) hx hx' (Store.isInteger_of_entity rfl)
    (Store.isInteger_of_entity rfl)⟩

end LenientText.Guarded
