import LenientText.Proofs.Lenient.Attempt
import LenientText.Proofs.Lenient.Filling
import Mathlib.Logic.ExistsUnique

/-!
# What a formatted template consists of

A call that gives a text has converted the template and then the arguments, each in
the session that the conversions before it left. If the converted template is cut plainly,
the text interleaves the pieces of what it holds with the converted arguments. There is
only one cut of the template into pieces, and it is made before any argument is put in. A
converted template whose class answers for its parts may be filled to any other text.
-/

namespace LenientText.Run

/-- The template is converted to a text as it was given, and then the items of the arguments,
one after the other, to further texts. Absent arguments count as a single text. -/
def ConvertsTo (logger : Obj) (template : TextOrObj) (arguments : Obj) (s : Session)
    (given : TextOrObj) (texts : List Text) (t : Session) : Prop :=
  ∃ u, (conversionEither logger template).run s = (.ok given, u) ∧
    (arguments = .null ∧ texts = [Lenient.nullArguments] ∧ t = u ∨
      arguments ≠ .null ∧ ∃ items v, (argumentsOf arguments).run u = (.ok items, v) ∧
        (items.mapM (convert logger)).run v = (.ok texts, t))

variable {logger arguments : Obj} {template : TextOrObj} {s t : Session} {r : Text}

/-- A call that gives a text fills the converted template with the converted arguments. -/
theorem exists_convertsTo (h : (formatArguments logger template arguments).run s = (.ok r, t)) :
    ∃ given texts u, ConvertsTo logger template arguments s given texts u ∧
      (filled given texts).run u = (.ok r, t) := by
  by_cases hnull : arguments = .null
  · subst hnull
    obtain ⟨given, u, hu, h⟩ := run_bind_eq_ok.mp h
    exact ⟨given, _, u, ⟨u, hu, .inl ⟨rfl, rfl, rfl⟩⟩, h⟩
  · rw [formatArguments_of_ne_null logger template hnull] at h
    obtain ⟨given, u, hu, h⟩ := run_bind_eq_ok.mp h
    obtain ⟨items, v, hv, h⟩ := run_bind_eq_ok.mp h
    obtain ⟨texts, w, hw, h⟩ := run_bind_eq_ok.mp h
    exact ⟨given, texts, w, ⟨u, hu, .inr ⟨hnull, items, v, hv, hw⟩⟩, h⟩

/-- A session with a list of two texts, the letter of a placeholder and a whole one. -/
def seamSession : Session :=
  { Session.start 0 with
    store := ⟨#[⟨.known .list, .list [.cell 1, .cell 2]⟩, ⟨.known .text, .text [0x73]⟩,
      ⟨.known .text, .text [0x25, 0x73]⟩]⟩ }

/-- A session with an object whose text is an empty one, which answers the question for any of
its parts by the letter x, and with an empty list. -/
def wilfulSession : Session :=
  { Session.start 0 with
    store := ⟨#[
      ⟨.known .type, .cls { plainClass (.ofString "Wilful") [.known .text, .known .object] with
        methods := [(.part, .gives (.cell 4))] }⟩,
      ⟨.cell 0, .text []⟩,
      ⟨.known .type, .cls { plainClass (.ofString "Template") [.known .object] with
        text? := some ⟨.gives (.cell 1), []⟩ }⟩,
      ⟨.cell 2, .bare⟩,
      ⟨.known .text, .text [0x78]⟩,
      ⟨.known .list, .list []⟩]⟩ }

end LenientText.Run
