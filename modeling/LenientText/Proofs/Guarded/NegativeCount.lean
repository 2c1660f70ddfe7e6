import LenientText.Proofs.Guarded.Stages
import LenientText.Proofs.Lenient.Disclosure
import LenientText.Proofs.Logging.Creation
import LenientText.Proofs.Number.Decimal
import Mathlib.Algebra.Group.Nat.Defs

/-!
# Negative counts are rejected, however long they are

Asked for a negative number of copies, repetition rejects the count with a message that shows
it. A count that can be written is shown by its decimal, and nothing happens besides. A count
with more digits than are written has no text, so converting it for the message fails, and the
message shows what stands for it instead: the identity form and the name of the class of that
second fault. The call ends with the same kind of rejection all the same, and one warning is
issued on the default logger.
-/

namespace LenientText

namespace Store

/-- An object is an integer without a text of its own: no class of its lineage scripts the text
or the display form of its instances, and its class has plain names. -/
structure IsCount (s : Store) (o : Obj) (n : Int) : Prop extends s.IsInteger o n where
  /-- It is no class. -/
  isClass_eq : s.isClass o = false
  /-- There is no script for the text. -/
  textHook?_eq : s.textHook? (s.typeOf o) = none
  /-- There is no script for the display form. -/
  displayHook?_eq : s.displayHook? (s.typeOf o) = none
  /-- The class has plain names. -/
  isPlainlyNamed : s.IsPlainlyNamed (s.typeOf o)

variable {s : Store} {o : Obj} {n : Int}

/-- An instance of the class of integers itself is written as the integer that it holds. -/
theorem isCount_of_typeOf (htype : s.typeOf o = .known .integer)
    (hcontent : s.content o = .integer n) : s.IsCount o n where
  isA := by
    rw [isA, htype, derivesFrom_known]
    rfl
  content_eq := hcontent
  isTakenPlainly := isTakenPlainly_of_known htype
  isClass_eq := by
    rw [isClass, isA, htype, derivesFrom_known]
    rfl
  textHook?_eq := by
    rw [htype]
    exact s.findSome?_lineage_known .integer fun _ => rfl
  displayHook?_eq := by
    rw [htype]
    exact s.findSome?_lineage_known .integer fun _ => rfl
  isPlainlyNamed := by
    rw [htype]
    exact s.isPlainlyNamed_known .integer

/-- A negative integer is kept in a cell. -/
theorem IsCount.exists_cell (h : s.IsCount o n) (hn : n < 0) : ∃ i, o = .cell i := by
  have hcontent := h.content_eq
  cases o with
  | null => cases hcontent
  | bool b =>
    have hvalue : (if b then 1 else 0 : Int) = n := Content.integer.inj hcontent
    split at hvalue <;> omega
  | known c => cases hcontent
  | logger name => cases hcontent
  | cell i => exact ⟨i, rfl⟩

end Store

namespace Run

variable {s : Session} {o : Obj} {n : Int}

/-- The text of a negative integer is its decimal, if that is short enough to be written. -/
theorem run_asked_of_isCount (h : s.store.IsCount o n) (hn : n < 0) :
    (asked (.object o)).run s = (.text <$> integerText n : Run _).run s := by
  obtain ⟨i, rfl⟩ := h.exists_cell hn
  have hcontent : ∀ inside : List Obj → Obj → Run Text,
      (contentDisplay inside [] (.cell i)).run s = (integerText n).run s := by
    intro inside
    have hget : (get : Run Session).run s = (.ok s, s) := rfl
    rw [contentDisplay, run_bind_of_ok hget]
    dsimp only
    rw [h.isClass_eq, h.content_eq, if_neg Bool.false_ne_true]
  have hdisplay : ∀ inside : List Obj → Obj → Run Text,
      (displayWith .text inside [] (.cell i)).run s = (.text <$> integerText n : Run _).run s := by
    intro inside
    rw [displayWith, run_bind_of_ok (run_store s), h.displayHook?_eq, run_map, hcontent, run_map]
  obtain ⟨depth, hdepth⟩ := exists_written_eq .text (.cell i)
  change (written .text (.cell i)).run s = _
  rw [hdepth]
  change (textWith (showWithin (depth + 1)) [] (.cell i)).run s = _
  rw [textWith, run_bind_of_ok (run_store s), h.textHook?_eq, h.content_eq]
  exact hdisplay _

end Run

/-- The class of unsuitable values presents its name and the module of the most basic
classes. -/
theorem Session.presents_valueError (s : Session) :
    s.Presents (.known .valueError) ⟨some Run.basicModule, .ofString "ValueError"⟩ where
  isClass := s.store.isClass_known .valueError
  module := ⟨.text Run.basicModule, rfl, trivial, rfl⟩
  name := ⟨.ofString "ValueError", .text (.ofString "ValueError"), rfl, trivial, rfl⟩
  qualifiedName := ⟨.text (.ofString "ValueError"), rfl, trivial, rfl⟩

/-- What is shown of an integer that has no text because of its length. -/
def Portrait.unwritable (object : Presentation) (identity : Nat) : Portrait :=
  ⟨object, identity, ⟨some Run.basicModule, .ofString "ValueError"⟩⟩

namespace Portrait

variable {s : Session} {c : Obj} {p : Presentation}

/-- Where the class of an integer presents something, the fault of its length has a portrait. It
is no exception of any class, so a warning of it is issued whatever logging does. -/
theorem hasPortrait_unwritable (h : s.Presents (s.store.typeOf c) p) :
    (⟨c, .fault .unwritable⟩ : Failure).HasPortrait .null s (unwritable p (s.identityOf c)) where
  object := h
  identity := rfl
  logged := by
    have hweigh : (Run.weigh (.fault .unwritable)).run ((s.afterIdentifying c).readied .null) =
        (.ok .complete, (s.afterIdentifying c).readied .null) := rfl
    rw [Run.run_warn (.inl rfl), Run.run_weighFor_of_weigh hweigh]
  cause := Session.presents_valueError _

/-- What stands for an integer that has no text names the fault of its length. -/
theorem apology_unwritable (p : Presentation) (identity : Nat) : (unwritable p identity).apology =
    .ofString "<" ++ (unwritable p identity).identityText ++ .ofString " threw ValueError>" := by
  rw [apology, Lenient.apology]
  simp only [List.append_assoc]
  rfl

end Portrait

namespace Guarded

open Run

/-- How repetition rejects a count. -/
structure RejectsCount (check : Checker) (text count : Obj) (n : Int) (s : Session) : Prop where
  /-- A count that can be written is shown by its decimal, as no other count is, and the session
  stays as it is. -/
  run_of_length_le : (Nat.toDigits 10 n.natAbs).length ≤ Integer.maxDigits →
    ∃ f, (repetition check text count).run s = (.error (.fault f), s) ∧
      f.class? = some .argumentError ∧
      f.message = .ofString "invalid count: " ++ .ofString (toString n) ∧
      ∀ m : Int, f.message = .ofString "invalid count: " ++ .ofString (toString m) → m = n
  /-- A count that cannot be written is shown by its identity form, and one warning tells why. -/
  run_of_lt_length : Integer.maxDigits < (Nat.toDigits 10 n.natAbs).length →
    ∃ identity t f u w, (identityText count).run s = (.ok identity, t) ∧
      (repetition check text count).run s = (.error (.fault f), u) ∧
      f.class? = some .argumentError ∧
      f.message = .ofString "invalid count: <" ++ identity ++ .ofString " threw ValueError>" ∧
      u.warnings = s.warnings ++ [w] ∧ w.logger = Lenient.defaultLogger ∧
      w.message = Lenient.warningIntro ++ identity ∧ w.cause = .fault .unwritable ∧
      u.store = s.store

variable {check : Checker} {s : Session} {o c : Obj} {t : Text} {n : Int}

/-- A negative count ends the call with its rejection. -/
theorem run_repetition_of_neg (hcheck : check.IsSound) (ho : s.store.IsText o t)
    (hc : s.store.IsCount c n) (hn : n < 0) : (repetition check o c).run s =
      (.error (rejection countTemplate ((Attempt.start (.object c) s).settled .null)),
        ((Attempt.start (.object c) s).settled .null).2) := by
  have hadmits : Admits check (TextCall.repetition o c).parameters s s :=
    (run_bind_of_ok (hcheck.run_textOrNull_of_isText ho)).trans
      (run_bind_of_ok (hcheck.run_integer_of_isInteger hc.toIsInteger))
  have hcomplete : (TextCall.repetition o c).IsComplete := by
    intro r hr
    rw [List.mem_singleton.mp hr]
    exact ho.ne_null
  have hnegative : (isNotNegative check c).run s = (.ok false, s) := by
    rw [run_isNotNegative_of_isInteger hcheck hc.toIsInteger,
      decide_eq_false (Int.not_le_of_gt hn)]
  exact TextCall.run_of_demandMet_error hadmits hcomplete rfl
    (Condition.run_demand_of_false (d := ⟨isNotNegative check c, countTemplate, c⟩) hnegative)

/-- The message about a count shows its text behind the introduction. -/
theorem fill_countTemplate (x : Text) :
    Template.fill countTemplate [x] = .ofString "invalid count: " ++ x :=
  congrArg (Text.ofString "invalid count: " ++ ·) (List.append_nil x)

/-- A count that has a text is shown by it. -/
theorem settled_of_isWritable (hc : s.store.IsCount c n) (hn : n < 0)
    (hwritable : Integer.isWritable n = true) :
    (Attempt.start (.object c) s).settled .null = (.ok (.text (Integer.decimal n)), s) := by
  have htext : Integer.text? n = some (Integer.decimal n) := if_pos hwritable
  have hasked : (asked (.object c)).run s = (.ok (.text (Integer.decimal n)), s) := by
    rw [run_asked_of_isCount hc hn]
    unfold integerText
    rw [htext]
    rfl
  rw [Attempt.start, hasked]
  rfl

/-- A count that has no text fails to be converted. -/
theorem failure?_of_not_isWritable (hc : s.store.IsCount c n) (hn : n < 0)
    (hlong : ¬Integer.isWritable n = true) :
    (Attempt.start (.object c) s).failure? = some ⟨c, .fault .unwritable⟩ ∧
      (Attempt.start (.object c) s).after = s := by
  have htext : Integer.text? n = none := if_neg hlong
  have hasked : (asked (.object c)).run s = (.error (.fault .unwritable), s) := by
    rw [run_asked_of_isCount hc hn]
    unfold integerText
    rw [htext]
    rfl
  rw [Attempt.start, hasked]
  exact ⟨Attempt.failure?_eq_some_iff.mpr ⟨rfl, rfl, Raised.isOrdinary_fault _ _⟩, rfl⟩

/-- Negative counts are rejected, those that can be written and those that cannot. -/
theorem rejectsCount_of_neg (hcheck : check.IsSound) (ho : s.store.IsText o t)
    (hc : s.store.IsCount c n) (hn : n < 0) : RejectsCount check o c n s where
  run_of_length_le := by
    intro hlength
    have hwritable := (Integer.isWritable_iff_length_le n).mpr hlength
    have hmessage : (Fault.rejected (Template.fill countTemplate [Integer.decimal n])).message =
        .ofString "invalid count: " ++ .ofString (toString n) := by
      rw [Fault.message, fill_countTemplate, Integer.decimal_eq_ofString]
    refine ⟨_, ?_, rfl, hmessage, fun m hm => ?_⟩
    · rw [run_repetition_of_neg hcheck ho hc hn, settled_of_isWritable hc hn hwritable]
      rfl
    · rw [hmessage, List.append_cancel_left_eq, ← Integer.decimal_eq_ofString,
        ← Integer.decimal_eq_ofString] at hm
      exact (Integer.decimal_injective hm).symm
  run_of_lt_length := by
    intro hlength
    have hlong : ¬Integer.isWritable n = true := by
      rw [Integer.isWritable_iff_length_le]
      exact Nat.not_le_of_lt hlength
    obtain ⟨hfailure, hafter⟩ := failure?_of_not_isWritable hc hn hlong
    obtain ⟨p, hp⟩ := Session.exists_presents_of_isPlainlyNamed (s := s) hc.isPlainlyNamed
    have hportrait := Portrait.hasPortrait_unwritable hp
    rw [← hafter] at hportrait
    have hsettled := Attempt.settled_of_hasPortrait (.inl rfl) hfailure hportrait
    rw [hafter] at hportrait hsettled
    have hrecovered := hportrait.isRecovered (.inl rfl)
    have hrun := run_repetition_of_neg hcheck ho hc hn
    rw [hsettled, rejection, fill_countTemplate, Portrait.apology_unwritable] at hrun
    refine ⟨_, _, _, _, _, hportrait.run_identityText, hrun, rfl, ?_, hrecovered.warnings_eq,
      Registry.name_logger_ensure s.registry (by decide), rfl, rfl, hrecovered.store_eq⟩
    have hjoined : Text.ofString "invalid count: <" =
        .ofString "invalid count: " ++ .ofString "<" := rfl
    rw [Fault.message, hjoined]
    simp only [Store.plain, List.append_assoc]

/-- A session with a text, a negative count, and the negative count closest to zero that is
not written. -/
def debtSession : Session :=
  { Session.start Session.defaultIdentity with
    store := ⟨#[⟨.known .text, .text (.ofString "ab")⟩, ⟨.known .integer, .integer (-5)⟩,
      ⟨.known .integer, .integer (-(10 ^ Integer.maxDigits : Nat))⟩]⟩ }

/-- The one count is shown as it is, and the other one is not. -/
theorem rejectsCount_of_neg_debt :
    (∃ f, (repetition .strict (.cell 0) (.cell 1)).run debtSession =
        (.error (.fault f), debtSession) ∧
      f.message = .ofString "invalid count: -5") ∧
    ∃ identity t f u w, (identityText (.cell 2)).run debtSession = (.ok identity, t) ∧
      (repetition .strict (.cell 0) (.cell 2)).run debtSession = (.error (.fault f), u) ∧
      f.message = .ofString "invalid count: <" ++ identity ++ .ofString " threw ValueError>" ∧
      u.warnings = [w] ∧ w.logger = Lenient.defaultLogger := by
  have ho : debtSession.store.IsText (.cell 0) (.ofString "ab") := Store.isText_of_entity rfl
  have hshort : debtSession.store.IsCount (.cell 1) (-5) := Store.isCount_of_typeOf rfl rfl
  have hlong : debtSession.store.IsCount (.cell 2) (-(10 ^ Integer.maxDigits : Nat)) :=
    Store.isCount_of_typeOf rfl rfl
  have hpos : 0 < 10 ^ Integer.maxDigits := Nat.pow_pos (by decide)
  constructor
  · obtain ⟨f, hrun, -, hmessage, -⟩ :=
      (rejectsCount_of_neg Checker.isSound_strict ho hshort (by decide)).run_of_length_le
        (by decide)
    exact ⟨f, hrun, hmessage⟩
  · have hdigits : Integer.maxDigits <
        (Nat.toDigits 10 (-(10 ^ Integer.maxDigits : Nat) : Int).natAbs).length := by
      rw [Int.natAbs_neg, Int.natAbs_natCast, ← Nat.not_le,
        Nat.length_toDigits_le_iff (by decide) (by decide)]
      exact Nat.lt_irrefl _
    obtain ⟨identity, t, f, u, w, hidentity, hrun, -, hmessage, hwarnings, hlogger, -⟩ :=
      (rejectsCount_of_neg Checker.isSound_strict ho hlong (by omega)).run_of_lt_length hdigits
    exact ⟨identity, t, f, u, w, hidentity, hrun, hmessage, hwarnings, hlogger⟩

end Guarded

end LenientText
