import LenientText.Proofs.Lenient.Attempt
import LenientText.Proofs.Lenient.Filling
import LenientText.Proofs.Text.Staging
import Mathlib.Data.List.Forall2

/-!
# Formatting texts in stages

Texts that no script speaks for convert to themselves without any effect, and so do the
items of lists of texts. A call on such a list fills the template. So filling the result of
one call by another one is filling the template once with the items of both lists, where
the filled part of the first result holds no placeholder.
-/

namespace LenientText

namespace Store

/-- An object holds a text, and no script gives another one for it. -/
structure IsOwnText (s : Store) (o : Obj) (t : Text) : Prop where
  /-- No class scripts the text of the object. -/
  textHook?_eq : s.textHook? (s.typeOf o) = none
  /-- The text that it holds. -/
  content_eq : s.content o = .text t

/-- A plain text, or an object that is its own text. -/
def IsOwnTextEither (s : Store) : TextOrObj → Text → Prop
  | .text u, t => u = t
  | .object o, t => s.IsOwnText o t

/-- An object is a list of objects that are their own texts, and no class gives other items or
another length for it. -/
structure IsTextList (s : Store) (o : Obj) (ts : List Text) : Prop where
  /-- No class scripts the items of the object. -/
  itemsHook?_eq : s.itemsHook? (s.typeOf o) = none
  /-- No class answers for the length of the object. -/
  method?_eq : s.method? (s.typeOf o) .length = none
  /-- The items and their texts. -/
  exists_items : ∃ items, s.content o = .list items ∧ List.Forall₂ s.IsOwnText items ts

/-- Nothing is not a text. -/
theorem IsOwnText.ne_null {s : Store} {o : Obj} {t : Text} (h : s.IsOwnText o t) : o ≠ .null := by
  rintro rfl
  cases h.content_eq

/-- Nothing is not a list. -/
theorem IsTextList.ne_null {s : Store} {o : Obj} {ts : List Text} (h : s.IsTextList o ts) :
    o ≠ .null := by
  rintro rfl
  obtain ⟨items, hitems, -⟩ := h.exists_items
  cases hitems

end Store

namespace Run

variable {s : Session} {o logger : Obj} {template : TextOrObj} {t : Text} {ts as bs ps : List Text}

/-- An object that is its own text is written without any effect, as the object itself or as the
plain text that it holds. What is given for it is cut plainly. -/
theorem exists_run_written_of_isOwnText (h : s.store.IsOwnText o t) : ∃ r,
    (written .text o).run s = (.ok r, s) ∧ s.store.plain r = t ∧ s.store.CutsPlainly r := by
  have htext : s.store.text? o = some t := by rw [Store.text?, h.content_eq]
  obtain ⟨depth, hdepth⟩ := exists_written_eq .text o
  have hwritten : (written .text o).run s =
      (.ok (if s.store.typeOf o = .known .text then .object o else .text t), s) := by
    rw [hdepth]
    change (textWith (showWithin (depth + 1)) [] o).run s = _
    rw [textWith, run_bind_of_ok (run_store s), h.textHook?_eq, h.content_eq]
    rfl
  refine ⟨_, hwritten, ?_⟩
  by_cases hplain : s.store.typeOf o = .known .text
  · rw [if_pos hplain]
    exact ⟨by rw [Store.plain, htext, Option.getD_some],
      (Store.isTakenPlainly_of_known hplain).cutsPlainly⟩
  · rw [if_neg hplain]
    exact ⟨rfl, trivial⟩

/-- A plain text, or an object that is its own text, converts to what is given for it, without
any effect. -/
theorem exists_run_conversionEither_of_isOwnText (h : s.store.IsOwnTextEither template t)
    (logger : Obj) : ∃ r, (conversionEither logger template).run s = (.ok r, s) ∧
      s.store.plain r = t ∧ s.store.CutsPlainly r := by
  cases template with
  | text u => exact ⟨.text u, rfl, h, trivial⟩
  | object o =>
    have hne : o ≠ .null := h.ne_null
    obtain ⟨r, hr, hplain, hcuts⟩ := exists_run_written_of_isOwnText h
    have hasked : (asked (.object o)).run s = (.ok r, s) := by
      cases o with
      | null => exact absurd rfl hne
      | _ => exact hr
    refine ⟨r, ?_, hplain, hcuts⟩
    rw [conversionEither, conversion_of_ne_null logger hne, run_rescue_of_ok hasked]

/-- An object that is its own text converts to it without any effect. -/
theorem run_convert_of_isOwnText (h : s.store.IsOwnText o t) (logger : Obj) :
    (convert logger o).run s = (.ok t, s) := by
  have heither : s.store.IsOwnTextEither (.object o) t := h
  obtain ⟨r, hr, rfl, -⟩ := exists_run_conversionEither_of_isOwnText heither logger
  have hconversion : (conversion logger o).run s = (.ok r, s) := hr
  rw [convert, run_plain, hconversion]
  rfl

/-- Objects that are their own texts convert to these one after the other. -/
theorem run_mapM_convert_of_isOwnText {items : List Obj}
    (h : List.Forall₂ s.store.IsOwnText items ts) (logger : Obj) :
    (items.mapM (convert logger)).run s = (.ok ts, s) := by
  induction h with
  | nil => rfl
  | @cons o t items ts ho _ ih =>
    rw [List.mapM_cons, run_bind_of_ok (run_convert_of_isOwnText ho logger), run_bind_of_ok ih]
    rfl

/-- A call on a list of texts fills the template with them. -/
theorem run_formatArguments_of_isTextList (ht : s.store.IsOwnTextEither template t)
    (ho : s.store.IsTextList o ts) (logger : Obj) :
    (formatArguments logger template o).run s = (.ok (Template.fill t ts), s) := by
  obtain ⟨items, hcontent, htexts⟩ := ho.exists_items
  obtain ⟨r, hr, rfl, hcuts⟩ := exists_run_conversionEither_of_isOwnText ht logger
  have hforeseen : (foresee o).run s = (.ok (), s) := by
    have hby : (sizeBy .length o).run s = (.ok none, s) :=
      run_bind_of_ok (run_askAs_of_eq_none _ ho.method?_eq)
    rw [foresee, run_bind_of_ok (run_store s), run_bind_of_ok (run_rescue_of_ok hby), hcontent,
      ho.method?_eq]
    rfl
  have hheld : (heldItems o).run s = (.ok items, s) := by
    rw [heldItems, run_bind_of_ok (run_store s), hcontent]
    rfl
  have hlisted : (itemsOf o).run s = (.ok items, s) := by
    rw [itemsOf, run_bind_of_ok (run_store s), ho.itemsHook?_eq, hcontent]
    exact (run_bind_of_ok hforeseen).trans hheld
  have harguments : (argumentsOf o).run s = (.ok items, s) := run_rescue_of_ok hlisted
  rw [formatArguments_of_ne_null logger template ho.ne_null, run_bind_of_ok hr,
    run_bind_of_ok harguments, run_bind_of_ok (run_mapM_convert_of_isOwnText htexts logger),
    run_filled_of_cutsPlainly hcuts]

/-- Formatting a template with a list of texts, and the result with another list, is
formatting the template with the texts of both, where the first list is not longer than
there are places and the filled part holds no placeholder. If the second list is empty, the
filled part may hold any. -/
theorem formatArguments_staged {first second both : Obj}
    (ht : s.store.IsOwnTextEither template t) (hfirst : s.store.IsTextList first as)
    (hsecond : s.store.IsTextList second bs) (hboth : s.store.IsTextList both (as ++ bs))
    (hps : Template.IsCut t ps) (hlen : as.length ≤ ps.length - 1)
    (hfree : bs = [] ∨ ¬Template.placeholder <:+: Template.filledPart ps as) (logger : Obj) :
    ∃ r q, (formatArguments logger template first).run s = (.ok r, s) ∧
      (formatArguments logger (.text r) second).run s = (.ok q, s) ∧
      (formatArguments logger template both).run s = (.ok q, s) := by
  have hfill : Template.fill (Template.fill t as) bs = Template.fill t (as ++ bs) := by
    rcases hfree with rfl | hfree
    · rw [Template.fill_nil, List.append_nil]
    · exact hps.fill_fill hlen hfree bs
  have hresult : s.store.IsOwnTextEither (.text (Template.fill t as)) (Template.fill t as) := rfl
  refine ⟨Template.fill t as, Template.fill t (as ++ bs),
    run_formatArguments_of_isTextList ht hfirst logger, ?_,
    run_formatArguments_of_isTextList ht hboth logger⟩
  rw [run_formatArguments_of_isTextList hresult hsecond logger, hfill]

/-- A session with a template of three places, one behind a lone percent sign, and with a
list of the letter of a placeholder, a list of three letters, and a list of all four. -/
def stagedSession : Session :=
  { Session.start 0 with
    store := ⟨#[⟨.known .text, .text [0x25, 0x73, 0x25, 0x25, 0x73, 0x25, 0x73]⟩,
      ⟨.known .text, .text [0x73]⟩, ⟨.known .text, .text [0x78]⟩, ⟨.known .text, .text [0x79]⟩,
      ⟨.known .text, .text [0x7A]⟩, ⟨.known .list, .list [.cell 1]⟩,
      ⟨.known .list, .list [.cell 2, .cell 3, .cell 4]⟩,
      ⟨.known .list, .list [.cell 1, .cell 2, .cell 3, .cell 4]⟩]⟩ }

/-- The letter does not join the percent sign before it, and the one percent sign does not
join the letter of the next place. -/
theorem formatArguments_staged_seam :
    (formatArguments .null (.object (.cell 0)) (.cell 5)).run stagedSession =
        (.ok [0x73, 0x25, 0x25, 0x73, 0x25, 0x73], stagedSession) ∧
      ∃ q, (formatArguments .null (.text [0x73, 0x25, 0x25, 0x73, 0x25, 0x73]) (.cell 6)).run
          stagedSession = (.ok q, stagedSession) ∧
        (formatArguments .null (.object (.cell 0)) (.cell 7)).run stagedSession =
          (.ok q, stagedSession) := by
  have hcut : Template.IsCut [0x25, 0x73, 0x25, 0x25, 0x73, 0x25, 0x73] [[], [0x25], [], []] :=
    Template.isCut_pieces _
  have hown : ∀ i t, stagedSession.store.entity (.cell i) = ⟨.known .text, .text t⟩ →
      stagedSession.store.IsOwnText (.cell i) t := by
    intro i t h
    exact ⟨by rw [Store.typeOf, h]; rfl, by rw [Store.content, h]⟩
  have hfree : ¬Template.placeholder <:+: Template.filledPart [[], [0x25], [], []] [[0x73]] := by
    decide
  have htemplate : stagedSession.store.IsOwnTextEither (.object (.cell 0))
      [0x25, 0x73, 0x25, 0x25, 0x73, 0x25, 0x73] := hown 0 _ rfl
  have hletters : List.Forall₂ stagedSession.store.IsOwnText [.cell 2, .cell 3, .cell 4]
      [[0x78], [0x79], [0x7A]] :=
    .cons (hown 2 _ rfl) (.cons (hown 3 _ rfl) (.cons (hown 4 _ rfl) .nil))
  have hfirst : stagedSession.store.IsTextList (.cell 5) [[0x73]] :=
    ⟨rfl, rfl, _, rfl, .cons (hown 1 _ rfl) .nil⟩
  have hsecond : stagedSession.store.IsTextList (.cell 6) [[0x78], [0x79], [0x7A]] :=
    ⟨rfl, rfl, _, rfl, hletters⟩
  have hall : stagedSession.store.IsTextList (.cell 7) ([[0x73]] ++ [[0x78], [0x79], [0x7A]]) :=
    ⟨rfl, rfl, _, rfl, .cons (hown 1 _ rfl) hletters⟩
  obtain ⟨r, q, hr, hq, hboth⟩ := formatArguments_staged htemplate hfirst hsecond hall hcut
    (by decide) (.inr hfree) .null
  have hrun : (formatArguments .null (.object (.cell 0)) (.cell 5)).run stagedSession =
      (.ok [0x73, 0x25, 0x25, 0x73, 0x25, 0x73], stagedSession) := rfl
  rw [hrun] at hr
  cases hr
  exact ⟨hrun, q, hq, hboth⟩

end Run

end LenientText
