import LenientText.Check.Checker
import LenientText.Proofs.Object.Answer
import LenientText.Proofs.Session.Inspection

/-!
# What is assumed of a check

A check of arguments and results is sound if it lets through, without any effect, what is
of a kind by its real class, unless the kind is about more than the class and a class answers
for the object; if it refuses an object of a known class that can be shown and is of none of
the kinds; and if it does nothing but look. Of an object of another class that is of none of
the kinds nothing more is assumed: it may be let through for what it claims to be, it may be
refused, and its hooks may throw something while it is looked at or reported. The check that
believes no claims is sound.
-/

namespace LenientText

/-- No class answers for what an object holds, or for the class that it claims. -/
structure Store.AnswersNothing (s : Store) (o : Obj) : Prop where
  /-- The object is taken for what it holds. -/
  isTakenPlainly : s.IsTakenPlainly o
  /-- There is no hook for the claimed class. -/
  attributeHook?_eq : s.attributeHook? (s.typeOf o) .ownClass = none

namespace Checker

open Run

/-- What is assumed of a check. -/
structure IsSound (check : Checker) : Prop where
  /-- An argument that is of a kind by its real class and by what it holds is let through, if
  the hint is about classes alone, or no class answers for the argument. -/
  argument_of_isMetBy : ∀ {h : Hint} {o : Obj} {s : Session},
    (h.isPlain = true ∨ s.store.AnswersNothing o) → h.isMetBy s.store o = true →
      (check.argument h o).run s = (.ok (), s)
  /-- The same holds of results. -/
  result_of_isMetBy : ∀ {h : Hint} {o : Obj} {s : Session},
    (h.isPlain = true ∨ s.store.AnswersNothing o) → h.isMetBy s.store o = true →
      (check.result h o).run s = (.ok (), s)
  /-- An argument of a known class that can be shown is refused if it is of none of the
  kinds. -/
  argument_of_not_isMetBy : ∀ {h : Hint} {o : Obj} {s : Session} {k : KnownClass} {r : TextOrObj},
    s.store.typeOf o = .known k → (written .display o).run s = (.ok r, s) →
      h.isMetBy s.store o = false → (check.argument h o).run s = (.error (.fault .unsuitable), s)
  /-- Checking an argument only calls hooks. -/
  within_argument : ∀ (h : Hint) (o : Obj), Within Session.OnlyCalls (check.argument h o)
  /-- Checking a result only calls hooks. -/
  within_result : ∀ (h : Hint) (o : Obj), Within Session.OnlyCalls (check.result h o)
  /-- An argument is refused, or what looking at it raises is passed on. -/
  raisesOnly_argument : ∀ (h : Hint) (o : Obj),
    RaisesOnly (fun e => e = .fault .unsuitable ∨ e.isOfInspection = true) (check.argument h o)
  /-- A result is refused, or what looking at it raises is passed on. -/
  raisesOnly_result : ∀ (h : Hint) (o : Obj),
    RaisesOnly (fun e => e = .fault .unsuitableResult ∨ e.isOfInspection = true) (check.result h o)

section Strict

variable {h : Hint} {o : Obj} {s : Session}

/-- An object passes if it is of a kind, and fails otherwise. Nothing else happens. -/
theorem run_demandMet (fault : Fault) (h : Hint) (o : Obj) (s : Session) :
    (demandMet fault h o).run s =
      (if h.isMetBy s.store o then .ok () else .error (.fault fault), s) := by
  rw [demandMet, run_bind_of_ok (run_store s)]
  cases h.isMetBy s.store o <;> rfl

/-- Going by the real class has no effect. -/
theorem within_demandMet (fault : Fault) (h : Hint) (o : Obj) :
    Within Session.OnlyCalls (demandMet fault h o) := by
  intro s
  rw [run_demandMet]
  exact refl s

/-- Going by the real class raises nothing but the fault. -/
theorem raisesOnly_demandMet {P : Raised → Prop} {fault : Fault} (hP : P (.fault fault)) (h : Hint)
    (o : Obj) : RaisesOnly P (demandMet fault h o) := by
  refine (raisesOnly_of_ok fun s => ⟨s.store, s, rfl⟩).bind fun s => ?_
  split
  · exact raisesOnly_throw hP
  · exact raisesOnly_pure ()

/-- The check that believes no claims is sound. -/
theorem isSound_strict : strict.IsSound where
  argument_of_isMetBy := by
    intro h o s _ hmet
    exact (run_demandMet .unsuitable h o s).trans (by rw [if_pos hmet])
  result_of_isMetBy := by
    intro h o s _ hmet
    exact (run_demandMet .unsuitableResult h o s).trans (by rw [if_pos hmet])
  argument_of_not_isMetBy := by
    intro h o s k r _ _ hmet
    exact (run_demandMet .unsuitable h o s).trans (by rw [hmet]; rfl)
  within_argument := within_demandMet .unsuitable
  within_result := within_demandMet .unsuitableResult
  raisesOnly_argument := raisesOnly_demandMet (.inl rfl)
  raisesOnly_result := raisesOnly_demandMet (.inl rfl)

end Strict

end Checker

end LenientText
