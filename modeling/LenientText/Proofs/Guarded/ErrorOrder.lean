import LenientText.Proofs.Guarded.Stages
import LenientText.Proofs.Lenient.Containment

/-!
# Which error comes first

Where several arguments are at fault, the first stage that finds a fault decides how the
call ends, and no shortcut, for a text that is long enough or a count of none or one, comes
before that. Two things stand beside this order. An object of a class of its own may answer
when it is looked at, by its length or by how it compares, and what it raises then ends the
stage that looks. And the message of a rejection shows an object, which calls its hooks, and
those may interrupt the process.
-/

namespace LenientText.Guarded.TextCall

open Run

/-- The errors of a call come in the order of its stages. -/
structure ErrorOrder (check : Checker) (c : TextCall) (s : Session) : Prop where
  /-- If any argument is of none of the kinds that its hint names, and all such arguments are of
  known classes and can be shown, it is refused, even if a text is absent. Nothing else
  happens. -/
  violated : (∀ p ∈ c.parameters, p.1.isMetBy s.store p.2 = false →
      (∃ k, s.store.typeOf p.2 = .known k) ∧ ∃ r, (written .display p.2).run s = (.ok r, s)) →
    (∃ p ∈ c.parameters, p.1.isMetBy s.store p.2 = false) →
    (c.run check).run s = (.error (.fault .unsuitable), s)
  /-- Whatever the arguments are, what the check raises for the first one that it does not let
  through is raised, even if a text is absent. It is the refusal, or comes of looking at that
  argument. Nothing happens but the calls of hooks. -/
  refused : ∀ earlier h o later t e u, c.parameters = earlier ++ (h, o) :: later →
    Admits check earlier s t → (check.argument h o).run t = (.error e, u) →
    (c.run check).run s = (.error e, u) ∧ (e = .fault .unsuitable ∨ e.isOfInspection = true) ∧
      Session.OnlyCalls s u
  /-- Where all arguments are let through, the first text that is absent is missed, whatever
  the other arguments are. Nothing happens but the calls of hooks. -/
  absent : ∀ earlier label later t, Admits check c.parameters s t →
    c.required = earlier ++ (label, .null) :: later → (∀ r ∈ earlier, r.2 ≠ .null) →
    ∃ f : Fault, (c.run check).run s = (.error (.fault f), t) ∧ f.class? = some .missingError ∧
      f.message = .ofString label ++ .ofString " is None." ∧ Session.OnlyCalls s t
  /-- Where all texts are there, an argument for which the condition does not hold is rejected
  with a message that shows it, whatever the sizes are. If making the message ends with what
  is no ordinary exception, that takes the place of the rejection. Of failures that recovery
  does not contain nothing is said. -/
  rejected : ∀ d t u, Admits check c.parameters s t → c.IsComplete →
    c.condition? check = some d → d.isMet.run t = (.ok false, u) →
    ¬(Attempt.start (.object d.argument) u).IsBeyondRecovery .null →
    (∃ (x : TextOrObj) (v : Session) (f : Fault),
      (Attempt.start (.object d.argument) u).settled .null = (.ok x, v) ∧
      (c.run check).run s = (.error (.fault f), v) ∧ f.class? = some .argumentError ∧
      f.message = Template.fill d.template [v.store.plain x]) ∨
    ∃ (e : Raised) (v : Session),
      (Attempt.start (.object d.argument) u).settled .null = (.error e, v) ∧
      (c.run check).run s = (.error e, v) ∧ e.isOrdinary v.store = false
  /-- Where all texts are there, what is raised while it is found out whether the condition
  holds is raised. -/
  undecided : ∀ d t e u, Admits check c.parameters s t → c.IsComplete →
    c.condition? check = some d → d.isMet.run t = (.error e, u) →
    (c.run check).run s = (.error e, u) ∧ e.isAboutSize = false
  /-- There is a result, or anything is told of sizes, only where all arguments are let through,
  all texts are there, and the condition holds. -/
  finished : ∀ r t, (c.run check).run s = (r, t) → (∀ e, r = .error e → e.isAboutSize = true) →
    ∃ u, Admits check c.parameters s u ∧ c.IsComplete ∧ c.IsFit check u

/-- A session with a text, numbers, padding without code points, an empty text whose text hook
interrupts the process, and padding whose class throws when it is asked for its length. -/
def crowdedSession : Session :=
  { Session.start 0 with
    store := ⟨#[⟨.known .text, .text [0x61, 0x62, 0x63]⟩, ⟨.known .integer, .integer 2⟩,
      ⟨.known .integer, .integer 1000000000000000000000000000000⟩, ⟨.known .text, .text []⟩,
      ⟨.known .keyboardInterrupt, .exception [] .none⟩,
      ⟨.known .type, .cls { plainClass (.ofString "Blank") [.known .text, .known .object] with
        text? := some ⟨.throws (.cell 4), []⟩ }⟩,
      ⟨.cell 5, .text []⟩, ⟨.known .valueError, .exception [] .none⟩,
      ⟨.known .type, .cls { plainClass (.ofString "Sly") [.known .text, .known .object] with
        methods := [(.length, .throws (.cell 7))] }⟩,
      ⟨.cell 8, .text [0x78]⟩, ⟨.known .text, .text [0x78]⟩]⟩ }

end LenientText.Guarded.TextCall
