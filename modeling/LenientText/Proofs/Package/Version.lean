import LenientText.Package.Version
import LenientText.Proofs.Guarded.Arguments
import LenientText.Proofs.Number.Integer
import LenientText.Proofs.Object.Presentation

/-!
# Converting versions undoes writing them

The decimals of integers hold no dot, so joined by dots they are found again as the parts
of the text, and each of them is read as its integer. Of the many texts that are read as the
same integers, this one is written. A text is converted exactly if all of its parts are
read, and whatever part is not, the fault is that of an integer that cannot be read.

The only part of an empty text is the object itself. The message about it shows that
object, and an instance of a descending class may have a display form of its own, which may
raise anything.
-/

namespace LenientText

namespace Run

variable {s : Session} {o : Obj}

/-- The display form of a plain text is the text in quotes. -/
theorem run_written_display_of_isPlainText {t : Text} (h : s.store.IsPlainText o)
    (ht : s.store.text? o = some t) :
    (written .display o).run s = (.ok (.text (Quoted.text t)), s) := by
  have hcontent : s.store.content o = .text t := Store.content_of_text? ht
  have hhook : s.store.displayHook? (.known .text) = none :=
    s.store.findSome?_lineage_known .text fun _ => rfl
  have hclass : s.store.isClass o = false := by
    rw [Store.isClass, Store.isA, h.typeOf_eq, Store.derivesFrom_known]
    rfl
  have hshown : ∀ inside : List Obj → Obj → Run Text,
      (contentDisplay inside [] o).run s = (.ok (Quoted.text t), s) := by
    intro inside
    have hget : (get : Run Session).run s = (.ok s, s) := rfl
    rw [contentDisplay, run_bind_of_ok hget]
    cases o with
    | cell i =>
      dsimp only
      rw [hclass, hcontent]
      rfl
    | _ => cases hcontent
  change (displayWith .display _ [] o).run s = _
  rw [displayWith, run_bind_of_ok (run_store s), h.typeOf_eq, hhook]
  dsimp only
  rw [run_map, hshown]
  rfl

end Run

namespace Version

open Run

variable {s : Session} {o : Obj} {t p : Text} {ns : List Int} {f : Fault}

/-- A part of a version, read as an integer. -/
def readPart (p : Text) : Except Fault Int :=
  match Integer.read p with
  | .ok n => .ok n
  | .error cause => .error (.unreadable cause (Quoted.text p))

/-- A version is read part by part. -/
theorem parse_eq (t : Text) : parse t = (Text.parts Text.dot t).mapM readPart := rfl

/-- A part is read if it is an integer. -/
theorem readPart_of_read_ok {n : Int} (h : Integer.read p = .ok n) : readPart p = .ok n := by
  rw [readPart, h]

/-- What is no integer is shown as the part that cannot be read. -/
theorem readPart_of_read_error {e : Integer.Unreadable} (h : Integer.read p = .error e) :
    readPart p = .error (.unreadable e (Quoted.text p)) := by
  rw [readPart, h]

/-- Each of the parts that are read as integers is read as one of these. -/
theorem exists_read_of_mem {ps : List Text} (h : ps.map Integer.read = ns.map .ok)
    (hp : p ∈ ps) : ∃ n ∈ ns, Integer.read p = .ok n := by
  have hmem : Integer.read p ∈ ps.map Integer.read := List.mem_map_of_mem hp
  rw [h] at hmem
  obtain ⟨n, hn, hread⟩ := List.mem_map.mp hmem
  exact ⟨n, hn, hread.symm⟩

/-- Either each part is read as an integer, or the fault is that of a part that is none. -/
theorem mapM_readPart_cases (ps : List Text) :
    (∃ ns, ps.map Integer.read = ns.map .ok ∧ ps.mapM readPart = .ok ns) ∨
      ∃ p ∈ ps, ∃ e, Integer.read p = .error e ∧
        ps.mapM readPart = .error (.unreadable e (Quoted.text p)) := by
  induction ps with
  | nil => exact .inl ⟨[], rfl, rfl⟩
  | cons p ps ih =>
    rw [List.mapM_cons]
    cases hp : Integer.read p with
    | error e =>
      rw [readPart_of_read_error hp]
      exact .inr ⟨p, List.mem_cons_self, e, hp, rfl⟩
    | ok n =>
      rw [readPart_of_read_ok hp]
      obtain ⟨ns, hread, hns⟩ | ⟨q, hq, e, he, hf⟩ := ih
      · rw [hns]
        exact .inl ⟨n :: ns, congrArg₂ List.cons hp hread, rfl⟩
      · rw [hf]
        exact .inr ⟨q, List.mem_cons_of_mem p hq, e, he, rfl⟩

/-- Either each part of a text is read as an integer, or the fault is that of a part that
is none. -/
theorem parse_cases (t : Text) :
    (∃ ns, (Text.parts Text.dot t).map Integer.read = ns.map .ok ∧ parse t = .ok ns) ∨
      ∃ p ∈ Text.parts Text.dot t, ∃ e, Integer.read p = .error e ∧
        parse t = .error (.unreadable e (Quoted.text p)) := by
  rw [parse_eq]
  exact mapM_readPart_cases (Text.parts Text.dot t)

/-- Whatever part is no integer, the fault is that of an integer that cannot be read. -/
theorem exists_parse_eq_error {e : Integer.Unreadable} (hp : p ∈ Text.parts Text.dot t)
    (he : Integer.read p = .error e) :
    ∃ f, parse t = .error f ∧ f.class? = some .valueError := by
  obtain ⟨ns, hread, -⟩ | ⟨q, -, e', -, hf⟩ := parse_cases t
  · obtain ⟨n, -, hn⟩ := exists_read_of_mem hread hp
    cases he.symm.trans hn
  · exact ⟨_, hf, rfl⟩

/-- There is no dot among the digits of an integer and its sign. -/
theorem dot_not_mem_decimal (n : Int) : Text.dot ∉ Integer.decimal n := by
  have hdot : Text.dot = 46 := rfl
  have hdigits : Text.dot ∉ Numeral.text 10 n.natAbs := by
    intro hmem
    obtain ⟨d, hd, -, hc⟩ := Integer.exists_glyph_of_mem hmem
    omega
  unfold Integer.decimal
  split
  · rw [List.mem_cons, not_or]
    exact ⟨by decide, hdigits⟩
  · exact hdigits

/-- Integers that are written are found again in the version that is written of them. -/
theorem parse_render (hne : ns ≠ []) (h : ∀ n ∈ ns, Integer.isWritable n = true) :
    parse (render ns) = .ok ns := by
  have hparts : Text.parts Text.dot (render ns) = ns.map Integer.decimal := by
    refine Text.parts_join (fun hnil => hne (List.map_eq_nil_iff.mp hnil)) ?_
    intro u hu
    obtain ⟨n, -, rfl⟩ := List.mem_map.mp hu
    exact dot_not_mem_decimal n
  have hreads : (ns.map Integer.decimal).map Integer.read = ns.map .ok := by
    rw [List.map_map]
    exact List.map_congr_left fun n hn => Integer.read_decimal (h n hn)
  obtain ⟨ms, hms, hparse⟩ | ⟨p, hp, e, he, -⟩ := parse_cases (render ns)
  · rw [hparts, hreads] at hms
    rw [hparse, (List.map_inj_right fun _ _ => Except.ok.inj).mp hms]
  · rw [hparts] at hp
    obtain ⟨n, -, hn⟩ := exists_read_of_mem hreads hp
    cases he.symm.trans hn

/-- What is read has a part for each part of the text, and is written. -/
theorem of_parse_eq_ok (h : parse t = .ok ns) :
    ns.length = t.count Text.dot + 1 ∧ ∀ n ∈ ns, Integer.isWritable n = true := by
  obtain ⟨ms, hread, hparse⟩ | ⟨p, -, e, -, hf⟩ := parse_cases t
  · cases h.symm.trans hparse
    constructor
    · rw [← Text.length_parts, ← List.length_map (f := Integer.read), hread, List.length_map]
    · intro n hn
      have hmem : Except.ok n ∈ (Text.parts Text.dot t).map Integer.read := by
        rw [hread]
        exact List.mem_map_of_mem hn
      obtain ⟨p, -, hp⟩ := List.mem_map.mp hmem
      exact Integer.isWritable_of_read hp
  · cases h.symm.trans hf

/-- The conversion of a text that is not empty is the reading of its parts. -/
theorem run_convert_of_ne_nil (ho : s.store.IsText o t) (hne : t ≠ []) :
    (convert o).run s = ((parse t).mapError .fault, s) := by
  have hempty : ¬t.isEmpty = true := by
    rw [List.isEmpty_iff]
    exact hne
  rw [convert, run_bind_of_ok (run_isInstance_of_isA ho.isA), if_neg (by decide),
    run_bind_of_ok (run_store s), ho.text?_eq]
  dsimp only
  rw [if_neg hempty]
  cases parse t <;> rfl

/-- The conversion of an empty text fails once the object is displayed. -/
theorem run_convert_nil (ho : s.store.IsText o []) : (convert o).run s =
    (plain (written .display o) >>= fun shown =>
      fail (.unreadable .malformed shown) : Run (List Int)).run s := by
  rw [convert, run_bind_of_ok (run_isInstance_of_isA ho.isA), if_neg (by decide),
    run_bind_of_ok (run_store s), ho.text?_eq]
  dsimp only
  rw [if_pos List.isEmpty_nil]
  rcases hshown : (plain (written .display o)).run s with ⟨r | shown, u⟩
  · rw [run_bind_of_error hshown, run_bind_of_error hshown]
  · rw [run_bind_of_ok hshown, run_bind_of_ok hshown]
    rfl

/-- An empty text is not converted. -/
theorem run_convert_nil_ne_ok {u : Session} (ho : s.store.IsText o []) :
    (convert o).run s ≠ (.ok ns, u) := by
  intro h
  rw [run_convert_nil ho] at h
  rcases hshown : (plain (written .display o)).run s with ⟨r | shown, v⟩
  · rw [run_bind_of_error hshown] at h
    cases h
  · rw [run_bind_of_ok hshown] at h
    cases h

/-- What an object is converted to is what its text is read as, which is not empty. -/
theorem of_run_convert_eq_ok {u : Session} (ho : s.store.IsText o t)
    (h : (convert o).run s = (.ok ns, u)) : t ≠ [] ∧ parse t = .ok ns := by
  have hne : t ≠ [] := by
    rintro rfl
    exact run_convert_nil_ne_ok ho h
  rw [run_convert_of_ne_nil ho hne] at h
  refine ⟨hne, ?_⟩
  cases hparse : parse t with
  | error f =>
    rw [hparse] at h
    cases h
  | ok ms =>
    rw [hparse] at h
    cases h
    rfl

/-- The version that is written of integers is converted to them. -/
theorem run_convert_of_isText_render (ho : s.store.IsText o (render ns)) (hne : ns ≠ [])
    (h : ∀ n ∈ ns, Integer.isWritable n = true) : (convert o).run s = (.ok ns, s) := by
  have hparse := parse_render hne h
  have hnil : render ns ≠ [] := by
    intro hnil
    rw [hnil] at hparse
    cases hparse
  rw [run_convert_of_ne_nil ho hnil, hparse]
  rfl

/-- What the conversion of versions and the writing of them have to do with each other. -/
structure UndoesWriting (s : Session) : Prop where
  /-- Integers, each with no more digits than the limit, are found again in the version that
  is written of them. -/
  convert_render : ∀ {o : Obj} {ns : List Int}, s.store.IsText o (render ns) → ns ≠ [] →
    (∀ n ∈ ns, (Nat.toDigits 10 n.natAbs).length ≤ Integer.maxDigits) →
      (convert o).run s = (.ok ns, s)
  /-- What a text is converted to has one part more than the text has dots. It can be
  written, and what is written, in any session, is converted to the same. -/
  of_convert_eq_ok : ∀ {o : Obj} {t : Text} {ns : List Int} {u : Session}, s.store.IsText o t →
    (convert o).run s = (.ok ns, u) → ns.length = t.count Text.dot + 1 ∧
      (∀ n ∈ ns, (Nat.toDigits 10 n.natAbs).length ≤ Integer.maxDigits) ∧
      ∀ {q : Obj} {v : Session}, v.store.IsText q (render ns) → (convert q).run v = (.ok ns, v)
  /-- A text with a part that is no integer is not converted, whatever the other parts are,
  and the fault is that of an integer that cannot be read. -/
  of_unreadable : ∀ {o : Obj} {t p : Text} {e : Integer.Unreadable}, s.store.IsText o t →
    (t = [] → s.store.IsPlainText o) → p ∈ Text.parts Text.dot t → Integer.read p = .error e →
      ∃ f : Fault, (convert o).run s = (.error (.fault f), s) ∧ f.class? = some .valueError
  /-- The only part of an empty text of a descending class is the object itself. The fault
  is the same once the object is displayed. -/
  of_displayed : ∀ {o : Obj} {shown : Text} {u : Session}, s.store.IsText o [] →
    (plain (written .display o)).run s = (.ok shown, u) →
      ∃ f : Fault, (convert o).run s = (.error (.fault f), u) ∧ f.class? = some .valueError
  /-- What the display form of such an object raises is all that can take its place. -/
  of_not_displayed : ∀ {o : Obj} {r : Raised} {u : Session}, s.store.IsText o [] →
    (plain (written .display o)).run s = (.error r, u) → (convert o).run s = (.error r, u)

/-- The conversion of versions undoes the writing of them, and only integers joined by dots
are converted. -/
theorem undoesWriting (s : Session) : UndoesWriting s where
  convert_render := by
    intro o ns ho hne hlength
    refine run_convert_of_isText_render ho hne fun n hn => ?_
    exact (Integer.isWritable_iff_length_le n).mpr (hlength n hn)
  of_convert_eq_ok := by
    intro o t ns u ho h
    obtain ⟨hparts, hwritable⟩ := of_parse_eq_ok (of_run_convert_eq_ok ho h).2
    have hne : ns ≠ [] := by
      rintro rfl
      cases hparts
    refine ⟨hparts, fun n hn => ?_, fun hq => run_convert_of_isText_render hq hne hwritable⟩
    exact (Integer.isWritable_iff_length_le n).mp (hwritable n hn)
  of_unreadable := by
    intro o t p e ho hplain hp he
    by_cases hne : t = []
    · subst hne
      have hshown : (plain (written .display o)).run s = (.ok (Quoted.text []), s) := by
        rw [run_plain, run_written_display_of_isPlainText (hplain rfl) ho.text?_eq]
        rfl
      rw [run_convert_nil ho, run_bind_of_ok hshown]
      exact ⟨.unreadable .malformed (Quoted.text []), rfl, rfl⟩
    · obtain ⟨f, hf, hclass⟩ := exists_parse_eq_error hp he
      rw [run_convert_of_ne_nil ho hne, hf]
      exact ⟨f, rfl, hclass⟩
  of_displayed := by
    intro o shown u ho hshown
    rw [run_convert_nil ho, run_bind_of_ok hshown]
    exact ⟨.unreadable .malformed shown, rfl, rfl⟩
  of_not_displayed := by
    intro o r u ho hshown
    rw [run_convert_nil ho, run_bind_of_error hshown]

/-- A session with a text that is not how its integers are written, the text that is, a text
of which a part in the middle is no integer, and an empty text of a descending class whose
display form is interrupted. -/
def versionSession : Session :=
  { Session.start 0 with
    store := ⟨#[⟨.known .text, .text [0x20, 0x31, 0x5F, 0x30, 0x2E, 0x2D, 0x30, 0x32, 0x2E, 0x663]⟩,
      ⟨.known .text, .text (render [10, -2, 3])⟩, ⟨.known .text, .text (.ofString "0.x.1")⟩,
      ⟨.known .keyboardInterrupt, .exception [] .none⟩,
      ⟨.known .type, .cls { plainClass (.ofString "Blank") [.known .text, .known .object] with
        display? := some ⟨.throws (.cell 3), []⟩ }⟩,
      ⟨.cell 4, .text []⟩]⟩ }

/-- A blank, an underscore, a sign, a leading zero and a digit of another script are read
over, and the integers are written without them. -/
theorem undoesWriting_variants :
    (convert (.cell 0)).run versionSession = (.ok [10, -2, 3], versionSession) ∧
      (convert (.cell 1)).run versionSession = (.ok [10, -2, 3], versionSession) ∧
      (∃ f : Fault, (convert (.cell 2)).run versionSession = (.error (.fault f), versionSession) ∧
        f.class? = some .valueError) ∧
      ∃ u, (convert (.cell 5)).run versionSession = (.error (.thrown (.cell 3)), u) := by
  have h := undoesWriting versionSession
  have hread : (convert (.cell 0)).run versionSession = (.ok [10, -2, 3], versionSession) := rfl
  obtain ⟨-, -, hagain⟩ := h.of_convert_eq_ok (Store.isText_of_entity rfl) hread
  refine ⟨hread, hagain (Store.isText_of_entity rfl), ?_, ?_⟩
  · have hplain : versionSession.store.IsPlainText (.cell 2) := ⟨rfl, _, rfl⟩
    exact h.of_unreadable (p := .ofString "x") (Store.isText_of_entity rfl) (fun _ => hplain)
      (by decide) rfl
  · have hblank : versionSession.store.IsText (.cell 5) [] :=
      ⟨by decide, rfl, fun m => by cases m <;> rfl⟩
    exact ⟨_, h.of_not_displayed hblank rfl⟩

end Version

end LenientText
