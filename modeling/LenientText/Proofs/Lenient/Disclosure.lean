import LenientText.Proofs.Lenient.Containment
import LenientText.Proofs.Lenient.Portrait

/-!
# What a failed conversion discloses

Two failures with the same portrait cannot be told apart by the text that stands for the
object or by the message of the warning, whatever else the objects and the exceptions are,
even if they live in different sessions. Once the one conversion has failed, recovery calls
the hooks that read the names of the class of the object and of the class of the exception,
in this order, and no other hooks: none of the object, none of the exception, and none that
says which class something claims. In between stand the calls that logging makes for the
exception, if its class answers for it or a handler asks for it.
-/

namespace LenientText

/-- What recovery from a failure with a portrait does to a session, and that is all it does. -/
structure Failure.IsRecovered (logger : Obj) (p : Portrait) (f : Failure) (s t : Session) :
    Prop where
  /-- One warning is issued, with the message of the portrait. -/
  warnings_eq : t.warnings =
    s.warnings ++ [(s.readied logger).warning (Lenient.loggerName logger) p.message f.cause]
  /-- The names of the class of the object are read, and, once logging is done, those of the
  class of the exception. -/
  calls_eq : t.calls = s.calls ++ s.store.namingCalls (s.store.typeOf f.object) ++
    f.warningCalls logger p s ++ s.store.namingCalls (f.cause.type s.store)
  /-- Logging calls no hooks if no class answers for the exception and no handler asks. -/
  warningCalls_eq : (∀ e, f.cause = .thrown e → s.store.IsTakenPlainly e) →
    (∀ attached, (s.readied logger).registry.questions (Lenient.loggerName logger)
      Logger.warningLevel attached = []) → f.warningCalls logger p s = []
  /-- The hooks called for the object belong to the class of its class, and read the module or
  a name. -/
  of_object : ∀ call ∈ s.store.namingCalls (s.store.typeOf f.object),
    (∃ a, a ≠ .ownClass ∧ call.hook = .reading a) ∧
      call.owner ∈ s.store.lineage (s.store.typeOf (s.store.typeOf f.object))
  /-- The hooks called for the exception belong to the class of its class, and read the module
  or a name. -/
  of_cause : ∀ call ∈ s.store.namingCalls (f.cause.type s.store),
    (∃ a, a ≠ .ownClass ∧ call.hook = .reading a) ∧
      call.owner ∈ s.store.lineage (s.store.typeOf (f.cause.type s.store))
  /-- The objects are as they were. -/
  store_eq : t.store = s.store
  /-- The object has been asked for its identity, and no other one. -/
  identified_eq : t.identified = s.identifiedWith f.object

variable {logger : Obj} {f : Failure} {s : Session} {p : Portrait}

/-- The session that recovery leaves differs by what recovery may do. -/
theorem Failure.HasPortrait.isRecovered (h : f.HasPortrait logger s p)
    (hg : Lenient.IsLoggerOrNull logger) :
    f.IsRecovered logger p s (f.recovered logger p s) where
  warnings_eq := by
    rw [recovered, h.reported_eq hg]
    rfl
  calls_eq := by
    rw [recovered, h.reported_eq hg]
    rcases hg with rfl | ⟨name, rfl⟩ <;> rfl
  warningCalls_eq := by
    intro hcause hquestions
    have hreported := reported_of_isTakenPlainly (p := p) hg hcause hquestions
    rw [warningCalls, reported, hreported]
    rcases hg with rfl | ⟨name, rfl⟩ <;> exact List.drop_length
  of_object _ h := Store.of_mem_namingCalls h
  of_cause _ h := Store.of_mem_namingCalls h
  store_eq := by
    rw [recovered, h.reported_eq hg]
    rcases hg with rfl | ⟨name, rfl⟩ <;> rfl
  identified_eq := by
    rw [recovered, h.reported_eq hg]
    rcases hg with rfl | ⟨name, rfl⟩ <;> rfl

/-- A failed conversion comes to the apology of its portrait. -/
theorem Run.run_convert_of_hasPortrait (hg : Lenient.IsLoggerOrNull logger) {x : Obj}
    (hf : (Attempt.start (.object x) s).failure? = some f)
    (hp : f.HasPortrait logger (Attempt.start (.object x) s).after p) :
    (convert logger x).run s =
      (.ok p.apology, f.recovered logger p (Attempt.start (.object x) s).after) := by
  rw [run_convert, Attempt.settled_of_hasPortrait hg hf hp]
  rfl

/-- A session with an instance of a class whose text throws an error with an argument. Asked
for its class, neither the instance nor its class answers, and the class of the class gives its
name through a hook. -/
def secretiveSession : Session :=
  { Session.start Session.defaultIdentity with
    store := ⟨#[
      ⟨.known .text, .text (.ofString "m")⟩,
      ⟨.known .text, .text (.ofString "Bad")⟩,
      ⟨.known .text, .text (.ofString "secret")⟩,
      ⟨.known .runtimeError, .exception [.cell 2] .none⟩,
      ⟨.known .type, .cls { plainClass (.ofString "Meta") [.known .type, .known .object] with
        attributes := [(.name, ⟨.gives (.cell 1), []⟩), (.ownClass, ⟨.throws (.cell 3), []⟩)] }⟩,
      ⟨.cell 4, .cls { plainClass (.ofString "Bad") [.known .object] with
        module? := some (.cell 0)
        text? := some ⟨.throws (.cell 3), []⟩
        display? := some ⟨.throws (.cell 3), []⟩
        attributes := [(.ownClass, ⟨.throws (.cell 3), []⟩)] }⟩,
      ⟨.cell 5, .bare⟩]⟩ }

/-- A session with a class whose own class has the name that the class of the instance has
there, and whose text throws an exception of a class that goes by the name of a known one. -/
def imitatingSession : Session :=
  { Session.start Session.defaultIdentity with
    store := ⟨#[
      ⟨.known .text, .text (.ofString "m")⟩,
      ⟨.known .text, .text Run.basicModule⟩,
      ⟨.known .type, .cls { plainClass (.ofString "RuntimeError")
        [.known .exception, .known .baseException, .known .object] with
        module? := some (.cell 1) }⟩,
      ⟨.cell 2, .exception [] .none⟩,
      ⟨.known .type, .cls { plainClass (.ofString "Bad") [.known .type, .known .object] with
        module? := some (.cell 0)
        text? := some ⟨.throws (.cell 3), []⟩ }⟩,
      ⟨.cell 4, .cls (plainClass (.ofString "Harmless") [.known .object])⟩]⟩ }

/-- What both failures show. -/
def commonPortrait : Portrait :=
  ⟨⟨some (.ofString "m"), .ofString "Bad"⟩, Session.defaultIdentity,
    ⟨some Run.basicModule, .ofString "RuntimeError"⟩⟩

end LenientText
