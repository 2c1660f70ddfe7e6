import LenientText.Proofs.Lenient.Attempt

/-!
# What recovery shows of a failure

A portrait of a failure consists of what the class of the object presents, of the identity
of the object, and of what the class of the exception presents once the warning has been
issued. Recovery works from the portrait alone: the text that stands for the object and the
message of the warning are functions of it, and the session that recovery leaves differs by
the warning, the calls for the names, and the identity asked for. What logging does with the
exception of a warning is not part of recovery. It is only assumed to go through.
-/

namespace LenientText

/-- What is shown of an object whose conversion failed and of the exception. -/
structure Portrait where
  /-- What the class of the object presents. -/
  object : Presentation
  /-- The identity of the object. -/
  identity : Nat
  /-- What the class of the exception presents. -/
  cause : Presentation
deriving DecidableEq, Repr

namespace Portrait

/-- The identity form of the object. -/
def identityText (p : Portrait) : Text :=
  p.object.fullName ++ .ofString "@" ++ Numeral.hex p.identity

/-- The text that stands for the object. -/
def apology (p : Portrait) : Text := Lenient.apology p.identityText p.cause.fullName

/-- The message of the warning. -/
def message (p : Portrait) : Text := Lenient.warningIntro ++ p.identityText

end Portrait

namespace Failure

/-- The session in which the warning of a failure has been issued. -/
def reported (logger : Obj) (p : Portrait) (f : Failure) (s : Session) : Session :=
  ((Run.warn logger p.message f.cause).run (s.afterIdentifying f.object)).2

/-- The calls of hooks that logging made for the exception of a failure. -/
def warningCalls (logger : Obj) (p : Portrait) (f : Failure) (s : Session) : List Call :=
  (f.reported logger p s).calls.drop (s.afterIdentifying f.object).calls.length

/-- A failure has a portrait in the session in which the conversion failed. -/
structure HasPortrait (logger : Obj) (f : Failure) (s : Session) (p : Portrait) : Prop where
  /-- The class of the object presents what the portrait says. -/
  object : s.Presents (s.store.typeOf f.object) p.object
  /-- The object has the identity in the portrait. -/
  identity : s.identityOf f.object = p.identity
  /-- Issuing the warning goes through. -/
  logged : ((Run.warn logger p.message f.cause).run (s.afterIdentifying f.object)).1 = .ok ()
  /-- Once the warning has been issued, the class of the exception presents what the portrait
  says. -/
  cause : (f.reported logger p s).Presents (f.cause.type s.store) p.cause

/-- The session after recovery from a failure with a portrait. -/
def recovered (logger : Obj) (p : Portrait) (f : Failure) (s : Session) : Session :=
  (f.reported logger p s).afterNaming (f.cause.type s.store)

variable {logger : Obj} {f : Failure} {s : Session} {p : Portrait}

/-- The object is named as in the portrait. -/
theorem HasPortrait.run_identityText (h : f.HasPortrait logger s p) :
    (Run.identityText f.object).run s = (.ok p.identityText, s.afterIdentifying f.object) := by
  rw [Run.run_identityText_of_presents h.object, h.identity, Portrait.identityText]

/-- The warning is issued. -/
theorem HasPortrait.run_warn (h : f.HasPortrait logger s p) :
    (Run.warn logger p.message f.cause).run (s.afterIdentifying f.object) =
      (.ok (), f.reported logger p s) := Prod.ext h.logged rfl

/-- Apart from calls of hooks a reported failure differs by its warning. -/
theorem HasPortrait.reported_eq (h : f.HasPortrait logger s p)
    (hg : Lenient.IsLoggerOrNull logger) : f.reported logger p s =
      { (s.afterIdentifying f.object).readied logger with
        calls := (s.afterIdentifying f.object).calls ++ f.warningCalls logger p s
        warnings := s.warnings ++
          [(s.readied logger).warning (Lenient.loggerName logger) p.message f.cause] } := by
  obtain ⟨made, hmade⟩ := Run.exists_of_run_warn hg h.run_warn
  have hcalls : f.warningCalls logger p s = made := by
    rw [warningCalls, hmade, List.drop_left]
  rw [hcalls, hmade]
  rcases hg with rfl | ⟨name, rfl⟩ <;> rfl

/-- After the warning the exception is named as in the portrait. -/
theorem HasPortrait.run_causeText (h : f.HasPortrait logger s p)
    (hg : Lenient.IsLoggerOrNull logger) : (Run.causeText f.cause).run (f.reported logger p s) =
      (.ok p.cause.fullName, f.recovered logger p s) := by
  have hstore : (f.reported logger p s).store = s.store := by
    rw [h.reported_eq hg]
    exact Session.store_readied _ _
  rw [Run.causeText, Run.run_bind_of_ok (Run.run_store _), hstore]
  exact Run.run_qualifiedName_inserted_of_presents h.cause

/-- Recovery works from the portrait alone. -/
theorem HasPortrait.run_recover (h : f.HasPortrait logger s p)
    (hg : Lenient.IsLoggerOrNull logger) :
    (Run.recover logger f.object f.cause).run s = (.ok p.apology, f.recovered logger p s) := by
  have hwarn := h.run_warn
  rw [Portrait.message] at hwarn
  rw [Run.recover_eq, Run.run_bind_of_ok h.run_identityText, Run.run_bind_of_ok hwarn,
    Run.run_map, h.run_causeText hg]
  rfl

/-- Where no class answers for the exception and no handler asks, issuing the warning goes
through and calls no hooks. -/
theorem reported_of_isTakenPlainly (hg : Lenient.IsLoggerOrNull logger)
    (hcause : ∀ e, f.cause = .thrown e → s.store.IsTakenPlainly e)
    (hquestions : ∀ attached, (s.readied logger).registry.questions (Lenient.loggerName logger)
      Logger.warningLevel attached = []) :
    (Run.warn logger p.message f.cause).run (s.afterIdentifying f.object) =
      (.ok (), ((s.afterIdentifying f.object).readied logger).warned (Lenient.loggerName logger)
        p.message f.cause) := by
  refine Run.run_warn_of_isTakenPlainly hg hcause ?_
  rcases hg with rfl | ⟨name, rfl⟩
  · exact hquestions
  · exact hquestions

end Failure

/-- A failure with a portrait is recovered from: the apology of the portrait stands for the
object. -/
theorem Attempt.settled_of_hasPortrait {logger : Obj} {a : Attempt} {f : Failure} {p : Portrait}
    (hg : Lenient.IsLoggerOrNull logger) (hf : a.failure? = some f)
    (hp : f.HasPortrait logger a.after p) :
    a.settled logger = (.ok (.text p.apology), f.recovered logger p a.after) := by
  rw [settled_of_failure?_eq_some hf, hp.run_recover hg]
  rfl

end LenientText
