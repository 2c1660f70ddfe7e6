import LenientText.Proofs.Guarded.Repetition
import LenientText.Proofs.Guarded.Results
import LenientText.Proofs.Text.Padding
import Mathlib.Algebra.Group.Int.Defs

/-!
# Padding text objects

For a text, a least length and a single code point, padding comes to one of three things.
A text that is long enough is given as it is. Otherwise what it lacks is completed, if the
number of copies is an index and memory holds them, and a number beyond all indices is
reported as such. It is this number that is limited, not the least length itself.

Padding a result again comes to padding once, to the greater length, and padding behind a
text is the reversal of padding before the reversed text. What stands for a result in the
second operation is an object that holds it.
-/

namespace LenientText

namespace Guarded

open Run

variable {check : Checker} {s : Session} {o l p : Obj} {t : Text} {n : Int} {c : Nat}

/-- A text, an integer and a single code point are what padding asks for. -/
theorem run_demandPadding (hcheck : check.IsSound) (ho : s.store.IsText o t)
    (hl : s.store.IsInteger l n) (hp : s.store.IsText p [c]) :
    (demandPadding check o l p).run s = (.ok (), s) := by
  rw [demandPadding,
    run_bind_of_ok (hcheck.run_textOrNull_of_isText ho),
    run_bind_of_ok (hcheck.run_integer_of_isInteger hl),
    run_bind_of_ok (hcheck.run_text_of_isText hp),
    run_bind_of_ok (run_demandPresent_of_isText ho _), run_bind_of_ok (run_lengthOf_of_isText hp)]
  exact run_require_true _ _

/-- What padding gives where a text is too short. -/
def completed : Except Shortage Text → Except Raised TextOrObj
  | .ok u => .ok (.text u)
  | .error e => .error (.fault (.shortage e))

/-- A text that is long enough is given as the object that it is. Any other one is
completed. -/
theorem run_pad (hcheck : check.IsSound) (join : Nat → Text → Text → Except Shortage Text)
    (fault : Store → Obj → Fault) (ho : s.store.IsText o t) (hl : s.store.IsInteger l n)
    (hp : s.store.IsText p [c]) : (pad check join fault o l p).run s =
      (if n ≤ t.length then .ok (.object o)
      else completed (Text.completion join s.capacity t n c), s) := by
  have hget : (get : Run Session).run s = (.ok s, s) := rfl
  rw [pad, run_bind_of_ok (run_demandPadding hcheck ho hl hp),
    run_bind_of_ok (run_lengthOf_of_isText ho), run_bind_of_ok (run_ordered_of_isInteger hl _ _ _),
    run_bind_of_ok (run_truthOf_bool _ s)]
  by_cases hlong : n ≤ t.length
  · rw [if_pos hlong, if_pos (decide_eq_true hlong)]
    exact run_bind_of_ok (hcheck.run_deliver_text_of_isText ho)
  · rw [if_neg hlong, if_neg (by rwa [decide_eq_true_iff]),
      run_bind_of_ok (run_wholeNumberOf_of_isInteger hl _),
      run_bind_of_ok (run_lengthOf_of_isText ho)]
    dsimp only
    rw [run_bind_of_ok hget, hp.plain_eq, Text.completion]
    cases Text.filler s.capacity [c] (n - t.length) with
    | error e => rfl
    | ok u =>
      have hgranted : (granted (.ok u)).run s = (.ok u, s) := rfl
      rw [run_bind_of_ok hgranted, run_bind_of_ok (run_textOrFault_of_isText ho _)]
      change (granted (join s.capacity u t) >>= fun v => pure (.text v)).run s =
        (completed (join s.capacity u t), s)
      cases join s.capacity u t <;> rfl

section

variable {join : Nat → Text → Text → Except Shortage Text} {put : Text → Text → Text}
  {fault : Store → Obj → Fault} {l' k : Obj} {m : Int} {r : TextOrObj} {u : Session} {y : Text}

/-- Padding succeeds where the text can be completed, and shows the completed text. -/
theorem exists_run_pad (hcheck : check.IsSound) (fault : Store → Obj → Fault)
    (h : Text.IsJoining join put) (ho : s.store.IsText o t) (hl : s.store.IsInteger l n)
    (hp : s.store.IsText p [c]) (hy : Text.completion join s.capacity t n c = .ok y) :
    ∃ r, (pad check join fault o l p).run s = (.ok r, s) ∧ s.store.Shows r y := by
  rw [run_pad hcheck join fault ho hl hp]
  by_cases hlong : n ≤ t.length
  · rw [h.completion_of_le hlong] at hy
    cases hy
    exact ⟨.object o, by rw [if_pos hlong], ho⟩
  · refine ⟨.text y, ?_, rfl⟩
    rw [if_neg hlong, hy]
    rfl

/-- Where padding succeeds, the text can be completed. -/
theorem exists_eq_ok_of_run_pad (hcheck : check.IsSound) (h : Text.IsJoining join put)
    (ho : s.store.IsText o t) (hl : s.store.IsInteger l n) (hp : s.store.IsText p [c])
    (hrun : (pad check join fault o l p).run s = (.ok r, u)) :
    ∃ y, Text.completion join s.capacity t n c = .ok y ∧ s.store.Shows r y ∧ u = s := by
  rw [run_pad hcheck join fault ho hl hp] at hrun
  by_cases hlong : n ≤ t.length
  · rw [if_pos hlong] at hrun
    cases hrun
    exact ⟨t, h.completion_of_le hlong, ho, rfl⟩
  · rw [if_neg hlong] at hrun
    cases hy : Text.completion join s.capacity t n c with
    | error e =>
      rw [hy] at hrun
      cases hrun
    | ok y =>
      rw [hy] at hrun
      cases hrun
      exact ⟨y, rfl, rfl, rfl⟩

/-- A text padded to one length, and the result padded to another one. -/
def padTwice (operation : Obj → Obj → Obj → Run TextOrObj) (text first second padding : Obj) :
    Run TextOrObj := do
  operation (← asObject (← operation text first padding)) second padding

/-- Whenever an operation pads a text to the greater of two lengths, padding it to the first
and the result to the second succeeds as well, and gives the same text. -/
def PadsAtOnce (operation : Obj → Obj → Obj → Run TextOrObj) (s : Session) (o p : Obj) : Prop :=
  ∀ {l l' k : Obj} {n m : Int} {r : TextOrObj} {u : Session}, s.store.IsInteger l n →
    s.store.IsInteger l' m → s.store.IsInteger k (max n m) →
      (operation o k p).run s = (.ok r, u) →
        ∃ r' u' y, (padTwice operation o l l' p).run s = (.ok r', u') ∧ u.store.Shows r y ∧
          u'.store.Shows r' y

/-- Padding twice comes to padding once. -/
theorem padsAtOnce (hcheck : check.IsSound) (h : Text.IsJoining join put)
    (ho : s.store.IsText o t) (hp : s.store.IsText p [c]) :
    PadsAtOnce (pad check join fault) s o p := by
  intro l l' k n m r u hl hl' hk hrun
  obtain ⟨y, hy, hr, rfl⟩ := exists_eq_ok_of_run_pad hcheck h ho hk hp hrun
  obtain ⟨x, hx, hagain⟩ := h.exists_completion_of_max hy
  obtain ⟨r₁, hr₁, hshows⟩ := exists_run_pad hcheck fault h ho hl hp hx
  obtain ⟨q, v, hv, hq, hcapacity, htexts, hintegers⟩ := exists_run_asObject hshows
  rw [← hcapacity] at hagain
  obtain ⟨r₂, hr₂, hshows₂⟩ := exists_run_pad hcheck fault h hq (hintegers _ _ hl')
    (htexts _ _ hp) hagain
  refine ⟨r₂, v, y, ?_, hr, hshows₂⟩
  rw [padTwice, run_bind_of_ok hr₁, run_bind_of_ok hv]
  exact hr₂

/-- The plain text that padding gives is the completed one, long enough or not. -/
theorem run_plain_pad (hcheck : check.IsSound) (h : Text.IsJoining join put)
    (ho : s.store.IsText o t) (hl : s.store.IsInteger l n) (hp : s.store.IsText p [c]) :
    (plain (pad check join fault o l p)).run s =
      ((Text.completion join s.capacity t n c).mapError fun e => .fault (.shortage e), s) := by
  rw [run_plain, run_pad hcheck join fault ho hl hp]
  by_cases hlong : n ≤ t.length
  · rw [if_pos hlong, h.completion_of_le hlong]
    exact congrArg (fun x => (Except.ok x, s)) ho.plain_eq
  · rw [if_neg hlong]
    cases Text.completion join s.capacity t n c <;> rfl

end

/-- Padding behind a text gives the reversal of what padding before the reversed text
gives, and fails where that fails. -/
theorem run_plain_padEnd_eq_reverse (hcheck : check.IsSound) {q : Obj} (ho : s.store.IsText o t)
    (hq : s.store.IsText q t.reverse) (hl : s.store.IsInteger l n) (hp : s.store.IsText p [c]) :
    (plain (padEnd check o l p)).run s =
      (List.reverse <$> plain (padStart check q l p)).run s := by
  rw [run_map, padEnd, padStart, run_plain_pad hcheck Text.isJoining_behind ho hl hp,
    run_plain_pad hcheck Text.isJoining_before hq hl hp, Text.completion_behind_eq_reverse]
  cases Text.completion Text.joined s.capacity t.reverse n c <;> rfl

/-- What padding a text with a code point comes to, at both ends, for every least length. -/
structure PadsExactly (check : Checker) (s : Session) (o p : Obj) (t : Text) (c : Nat) :
    Prop where
  /-- A text that is long enough is given as the object that it is. -/
  of_nonpos : ∀ {l : Obj} {n : Int}, s.store.IsInteger l n → n - t.length ≤ 0 →
    (padStart check o l p).run s = (.ok (.object o), s) ∧
      (padEnd check o l p).run s = (.ok (.object o), s)
  /-- What is lacking is put to the text, if the number of copies is an index and the text that
  they make up together is allotted. The length is then the greater one. -/
  of_pos : ∀ {l : Obj} {n : Int} {d : Nat}, s.store.IsInteger l n → n - t.length = d → 0 < d →
    t.length + d ≤ Text.maxLength → t.length + d ≤ s.capacity →
      (padStart check o l p).run s = (.ok (.text (List.replicate d c ++ t)), s) ∧
        (padEnd check o l p).run s = (.ok (.text (t ++ List.replicate d c)), s) ∧
        ((List.replicate d c ++ t).length : Int) = max (t.length : Int) n ∧
        ((t ++ List.replicate d c).length : Int) = max (t.length : Int) n
  /-- A number of copies beyond all indices is reported, whatever memory holds. -/
  of_lt : ∀ {l : Obj} {n : Int}, s.store.IsInteger l n → Text.maxLength < n - t.length →
    ∃ f : Fault, (padStart check o l p).run s = (.error (.fault f), s) ∧
      (padEnd check o l p).run s = (.error (.fault f), s) ∧ f.class? = some .overflowError
  /-- Padding before the text twice comes to padding it once. -/
  padStart_atOnce : PadsAtOnce (padStart check) s o p
  /-- Padding behind the text twice comes to padding it once. -/
  padEnd_atOnce : PadsAtOnce (padEnd check) s o p
  /-- Padding behind the text is the reversal of padding before its reversal, where it fails
  as well. -/
  padEnd_eq_reverse : ∀ {q l : Obj} {n : Int}, s.store.IsText q t.reverse →
    s.store.IsInteger l n →
      (plain (padEnd check o l p)).run s = (List.reverse <$> plain (padStart check q l p)).run s

/-- Every text is padded exactly, with every code point. -/
theorem padsExactly (hcheck : check.IsSound) (ho : s.store.IsText o t)
    (hp : s.store.IsText p [c]) : PadsExactly check s o p t c where
  of_nonpos := by
    intro l n hl hn
    have hlong : n ≤ t.length := by omega
    rw [padStart, padEnd, run_pad hcheck _ _ ho hl hp, run_pad hcheck _ _ ho hl hp, if_pos hlong,
      if_pos hlong]
    exact ⟨rfl, rfl⟩
  of_pos := by
    intro l n d hl hd hpos hindex hroom
    have hshort : ¬n ≤ t.length := by omega
    have hlack : Text.lack t n = d := Text.lack_of_eq hd
    have hallotted : Text.IsAllotted s.capacity t.length d := .inr (.inr ⟨hindex, hroom⟩)
    have hstart : Text.completion Text.joined s.capacity t n c = .ok (Text.copies d c ++ t) := by
      rw [Text.isJoining_before.completion_eq_ok_iff, hlack]
      exact ⟨⟨by omega, by omega⟩, hallotted, rfl⟩
    have hend : Text.completion (fun capacity u t => Text.joined capacity t u) s.capacity t n c =
        .ok (t ++ Text.copies d c) := by
      rw [Text.isJoining_behind.completion_eq_ok_iff, hlack]
      exact ⟨⟨by omega, by omega⟩, hallotted, rfl⟩
    rw [padStart, padEnd, run_pad hcheck _ _ ho hl hp, run_pad hcheck _ _ ho hl hp,
      if_neg hshort, if_neg hshort, hstart, hend, List.length_append, List.length_append,
      List.length_replicate]
    exact ⟨rfl, rfl, by omega, by omega⟩
  of_lt := by
    intro l n hl hn
    have hshort : ¬n ≤ t.length := by omega
    have hfiller : ∀ join, Text.completion join s.capacity t n c = .error .beyondIndex := by
      intro join
      rw [Text.completion, Text.filler_of_lt s.capacity [c] hn]
      rfl
    rw [padStart, padEnd, run_pad hcheck _ _ ho hl hp, run_pad hcheck _ _ ho hl hp,
      if_neg hshort, if_neg hshort, hfiller, hfiller]
    exact ⟨.shortage .beyondIndex, rfl, rfl, rfl⟩
  padStart_atOnce := padsAtOnce hcheck Text.isJoining_before ho hp
  padEnd_atOnce := padsAtOnce hcheck Text.isJoining_behind ho hp
  padEnd_eq_reverse := by
    intro q l n hq hl
    exact run_plain_padEnd_eq_reverse hcheck ho hq hl hp

/-- A session with a text that ends in half a pair and its reversal, a code point to pad
with, and least lengths of which one is negative and one is beyond all indices by as much
as the text is long and one more. -/
def paddedSession : Session :=
  { Session.start 0 with
    store := ⟨#[⟨.known .text, .text [0x37, 0xD83D]⟩, ⟨.known .text, .text [0xD83D, 0x37]⟩,
      ⟨.known .text, .text [0xDE00]⟩, ⟨.known .integer, .integer (-1)⟩,
      ⟨.known .integer, .integer 4⟩, ⟨.known .integer, .integer (2 ^ 63 + 2)⟩]⟩ }

/-- Padding with the other half of the pair puts it behind the text, and before the reversed
one. A negative length changes nothing, also after padding to another one, and a length of
2⁶³ code points more is reported. -/
theorem padsExactly_halves :
    (padEnd .strict (.cell 0) (.cell 4) (.cell 2)).run paddedSession =
        (.ok (.text [0x37, 0xD83D, 0xDE00, 0xDE00]), paddedSession) ∧
      (List.reverse <$> plain (padStart .strict (.cell 1) (.cell 4) (.cell 2))).run paddedSession =
        (.ok [0x37, 0xD83D, 0xDE00, 0xDE00], paddedSession) ∧
      (∃ r u, (padTwice (padEnd .strict) (.cell 0) (.cell 4) (.cell 3) (.cell 2)).run
        paddedSession = (.ok r, u) ∧ u.store.Shows r [0x37, 0xD83D, 0xDE00, 0xDE00]) ∧
      ∃ f : Fault, (padStart .strict (.cell 0) (.cell 5) (.cell 2)).run paddedSession =
        (.error (.fault f), paddedSession) ∧ f.class? = some .overflowError := by
  have h : PadsExactly .strict paddedSession (.cell 0) (.cell 2) [0x37, 0xD83D] 0xDE00 :=
    padsExactly Checker.isSound_strict (Store.isText_of_entity rfl) (Store.isText_of_entity rfl)
  have hless : paddedSession.store.IsInteger (.cell 3) (-1) := Store.isInteger_of_entity rfl
  have hfour : paddedSession.store.IsInteger (.cell 4) 4 := Store.isInteger_of_entity rfl
  have hend : (padEnd .strict (.cell 0) (.cell 4) (.cell 2)).run paddedSession =
      (.ok (.text [0x37, 0xD83D, 0xDE00, 0xDE00]), paddedSession) :=
    (h.of_pos (d := 2) hfour (by decide) (by decide) (by decide) (by decide)).2.1
  have hreverse := h.padEnd_eq_reverse (q := .cell 1) (Store.isText_of_entity rfl) hfour
  rw [run_plain, hend] at hreverse
  obtain ⟨r, u, y, htwice, hr, hu⟩ := h.padEnd_atOnce hfour hless (k := .cell 4) hfour hend
  have hy : [0x37, 0xD83D, 0xDE00, 0xDE00] = y := hr
  rw [← hy] at hu
  obtain ⟨f, hf, -, hclass⟩ := h.of_lt (l := .cell 5) (n := 2 ^ 63 + 2)
    (Store.isInteger_of_entity rfl) (by decide)
  exact ⟨hend, hreverse.symm, ⟨r, u, htwice, hu⟩, f, hf, hclass⟩

end Guarded

end LenientText
