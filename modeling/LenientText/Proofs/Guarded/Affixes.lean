import LenientText.Proofs.Guarded.Arguments
import LenientText.Proofs.Text.Utf16

/-!
# Common starts and ends of text objects

An object that really is a text passes every sound check without any effect,
so on two texts the guarded operations give what the texts share and leave the
session as it was. On encoded texts this is the encoding of what they give on the
texts themselves, and on well-formed texts it is well formed.
-/

namespace LenientText

namespace Guarded

open Run

variable {check : Checker} {s : Session}

/-- Two texts pass all checks, which leave no trace. -/
theorem run_demandTexts (hcheck : check.IsSound) {a b : Obj} {x y : Text}
    (ha : s.store.IsText a x) (hb : s.store.IsText b y) :
    (demandTexts check a b).run s = (.ok (x, y), s) := by
  rw [demandTexts,
    run_bind_of_ok (hcheck.run_textOrNull_of_isText ha),
    run_bind_of_ok (hcheck.run_textOrNull_of_isText hb),
    run_bind_of_ok (run_demandPresent_of_isText ha _),
    run_bind_of_ok (run_demandPresent_of_isText hb _),
    run_bind_of_ok (run_lengthOf_of_isText ha),
    run_bind_of_ok (run_lengthOf_of_isText hb),
    run_bind_of_ok (hcheck.run_text_of_isText ha),
    run_bind_of_ok (hcheck.run_text_of_isText hb),
    run_bind_of_ok (run_textOrFault_of_isText ha _),
    run_bind_of_ok (run_store s), hb.plain_eq]
  rfl

/-- On texts the guarded operation gives their common start. -/
theorem run_commonStart (hcheck : check.IsSound) {a b : Obj} {x y : Text}
    (ha : s.store.IsText a x) (hb : s.store.IsText b y) :
    (commonStart check a b).run s = (.ok (Text.commonStart x y), s) := by
  rw [commonStart, run_bind_of_ok (run_demandTexts hcheck ha hb)]
  rfl

/-- On texts the guarded operation gives their common end. -/
theorem run_commonEnd (hcheck : check.IsSound) {a b : Obj} {x y : Text}
    (ha : s.store.IsText a x) (hb : s.store.IsText b y) :
    (commonEnd check a b).run s = (.ok (Text.commonEnd x y), s) := by
  rw [commonEnd, run_bind_of_ok (run_demandTexts hcheck ha hb)]
  rfl

/-- What encoded texts share is the encoding of what the texts share, at their starts
and at their ends. Any well-formed texts share a well-formed start and end. -/
theorem run_commonAffixes_utf16 (hcheck : check.IsSound) {x y : Text} {a b c d : Obj}
    (hx : x.IsScalar) (hy : y.IsScalar) (ha : s.store.IsText a x) (hb : s.store.IsText b y)
    (hc : s.store.IsText c x.utf16) (hd : s.store.IsText d y.utf16) :
    ((commonStart check a b).run s = (.ok (x.commonStart y), s) ∧
      (commonStart check c d).run s = (.ok (x.commonStart y).utf16, s)) ∧
    ((commonEnd check a b).run s = (.ok (x.commonEnd y), s) ∧
      (commonEnd check c d).run s = (.ok (x.commonEnd y).utf16, s)) ∧
    ∀ {e f : Obj} {u v : Text}, s.store.IsText e u → s.store.IsText f v → u.IsWellFormed →
      v.IsWellFormed → ∃ p q, (commonStart check e f).run s = (.ok p, s) ∧ p.IsWellFormed ∧
        (commonEnd check e f).run s = (.ok q, s) ∧ q.IsWellFormed := by
  have hstart : x.utf16.commonStart y.utf16 = (x.commonStart y).utf16 :=
    Text.commonStart_utf16 hx hy
  have hend : x.utf16.commonEnd y.utf16 = (x.commonEnd y).utf16 := Text.commonEnd_utf16 hx hy
  refine ⟨⟨run_commonStart hcheck ha hb, ?_⟩, ⟨run_commonEnd hcheck ha hb, ?_⟩, ?_⟩
  · rw [← hstart]
    exact run_commonStart hcheck hc hd
  · rw [← hend]
    exact run_commonEnd hcheck hc hd
  · intro e f u v he hf hu hv
    exact ⟨u.commonStart v, u.commonEnd v, run_commonStart hcheck he hf,
      Text.isWellFormed_commonStart hu hv, run_commonEnd hcheck he hf,
      Text.isWellFormed_commonEnd hu hv⟩

/-- A session with two texts that differ in two supplementary code points, and their
encodings. The first two share their high surrogate, the other two their low one. -/
def halvesSession : Session :=
  { Session.start 0 with
    store := ⟨#[⟨.known .text, .text [0x61, 0x1F600, 0x62, 0x1F600, 0x63]⟩,
      ⟨.known .text, .text [0x61, 0x1F601, 0x62, 0x1FA00, 0x63]⟩,
      ⟨.known .text, .text [0x61, 0xD83D, 0xDE00, 0x62, 0xD83D, 0xDE00, 0x63]⟩,
      ⟨.known .text, .text [0x61, 0xD83D, 0xDE01, 0x62, 0xD83E, 0xDE00, 0x63]⟩]⟩ }

/-- The halves that the encoded texts share do not count. -/
theorem run_commonAffixes_utf16_halves :
    ((commonStart .strict (.cell 0) (.cell 1)).run halvesSession = (.ok [0x61], halvesSession) ∧
      (commonStart .strict (.cell 2) (.cell 3)).run halvesSession = (.ok [0x61], halvesSession)) ∧
    (commonEnd .strict (.cell 0) (.cell 1)).run halvesSession = (.ok [0x63], halvesSession) ∧
      (commonEnd .strict (.cell 2) (.cell 3)).run halvesSession =
        (.ok [0x63], halvesSession) := by
  have hx : Text.IsScalar [0x61, 0x1F600, 0x62, 0x1F600, 0x63] := by
    unfold Text.IsScalar
    decide
  have hy : Text.IsScalar [0x61, 0x1F601, 0x62, 0x1FA00, 0x63] := by
    unfold Text.IsScalar
    decide
  have ha : halvesSession.store.IsText (.cell 0) _ := Store.isText_of_entity rfl
  have hb : halvesSession.store.IsText (.cell 1) _ := Store.isText_of_entity rfl
  have hc : halvesSession.store.IsText (.cell 2) _ := Store.isText_of_entity rfl
  have hd : halvesSession.store.IsText (.cell 3) _ := Store.isText_of_entity rfl
  have h := run_commonAffixes_utf16 Checker.isSound_strict hx hy ha hb hc hd
  exact ⟨h.1, h.2.1⟩

end Guarded

end LenientText
