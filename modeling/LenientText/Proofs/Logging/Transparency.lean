import LenientText.Proofs.Guarded.Loggers
import LenientText.Proofs.Lenient.Attempt
import LenientText.Proofs.Lenient.Filling
import LenientText.Proofs.Logging.Lineage
import Mathlib.Logic.Relation

/-!
# What a host notices of the loggers

Asking for a logger and lenient formatting create loggers, and leave those that are there
as they are. Where parents are found by the dots of names, this shows nowhere: under
every name that had a logger, the same level decides, the same handlers are reached in
the same order, and a record of any severity has the same receivers. This does not depend
on how many of such calls are made, or on what they give or raise. It is true even of a
logger whose parent changes, because the new parent is fresh.
-/

namespace LenientText

/-- Loggers are created, and nothing else happens to loggers. -/
def Session.CreatesLoggers (s t : Session) : Prop := s.registry.OnlyCreates t.registry

namespace Session

instance : IsPreorder Session CreatesLoggers where
  refl s := refl s.registry
  trans _ _ _ h k := IsTrans.trans (r := Registry.OnlyCreates) _ _ _ h k

variable {s t : Session}

/-- What asks for loggers only creates them. -/
theorem OnlyAsks.createsLoggers (h : s.OnlyAsks t) : s.CreatesLoggers t := h.onlyCreates

/-- What has nothing to do with logging creates no logger. -/
theorem SameLogging.createsLoggers (h : s.SameLogging t) : s.CreatesLoggers t := by
  rw [CreatesLoggers, h.registry_eq]
  exact refl s.registry

end Session

namespace Run

open Session

/-- Looking at objects creates no logger. -/
theorem Within.createsLoggers {α : Type} {x : Run α} (h : Within OnlyLooks x) :
    Within CreatesLoggers x := h.mono fun h => h.sameLogging.createsLoggers

/-- An inspection creates no logger. -/
theorem IsInspection.createsLoggers {α : Type} {x : Run α} (h : IsInspection x) :
    Within CreatesLoggers x := (h.within.mono OnlyCalls.onlyLooks).createsLoggers

/-- Issuing a warning on the logger of a name creates none, whatever its handlers ask. -/
theorem within_warnOn (name message : Text) (cause : Raised) :
    Within CreatesLoggers (warnOn name message cause) := by
  have hnote : ∀ attached, Within CreatesLoggers (noteWarning name message cause attached) :=
    fun attached s => refl s.registry
  exact (isInspection_weighFor name cause).createsLoggers.bind fun attached => (hnote _).bind
    fun _ => (IsInspection.forM fun q => isInspection_put cause q).createsLoggers

/-- Issuing a warning on any object creates loggers at most. -/
theorem within_warn (logger : Obj) (message : Text) (cause : Raised) :
    Within CreatesLoggers (warn logger message cause) := by
  have hensure : Within CreatesLoggers
      (modify fun s => { s with registry := s.registry.ensure Lenient.defaultLogger }) :=
    fun s => .ensure s.registry Lenient.defaultLogger
  unfold warn
  split
  · exact hensure.bind fun _ => within_warnOn _ _ _
  · exact within_warnOn _ _ _
  · exact within_store.bind fun _ => within_fail _

/-- Recovery from a failure creates loggers at most. -/
theorem within_recover (logger o : Obj) (cause : Raised) :
    Within CreatesLoggers (recover logger o cause) := by
  rw [recover_eq]
  refine (within_identityText o).createsLoggers.bind fun identity =>
    (within_warn logger _ cause).bind fun _ => ?_
  exact (isInspection_causeText cause).createsLoggers.map _

/-- A tolerant conversion creates loggers at most. -/
theorem within_conversion (logger o : Obj) : Within CreatesLoggers (conversion logger o) := by
  have hwritten : IsInspection (written .text o) := isInspection_written .text o
  unfold conversion
  split
  · exact within_pure _
  · exact hwritten.createsLoggers.rescue fun cause => (within_recover logger o cause).map _

/-- The same is true where a plain text may stand in place of the object. -/
theorem within_conversionEither (logger : Obj) (value : TextOrObj) :
    Within CreatesLoggers (conversionEither logger value) := by
  cases value with
  | text t => exact within_pure (TextOrObj.text t)
  | object o => exact within_conversion logger o

/-- Converting items and filling a template with them creates loggers at most. -/
theorem within_mapM_convert_filled (logger : Obj) (template : TextOrObj) (items : List Obj) :
    Within CreatesLoggers (items.mapM (convert logger) >>= filled template) :=
  (within_mapM fun o => (within_conversion logger o).plain).bind fun texts =>
    (isInspection_filled template texts).createsLoggers

/-- Filling a template with given arguments creates loggers at most. -/
theorem within_format (logger : Obj) (template : TextOrObj) (arguments : List Obj) :
    Within CreatesLoggers (format logger template arguments) :=
  (within_conversionEither logger template).bind fun t =>
    within_mapM_convert_filled logger t arguments

/-- Filling a template with listed arguments creates loggers at most. -/
theorem within_formatArguments (logger : Obj) (template : TextOrObj) (arguments : Obj) :
    Within CreatesLoggers (formatArguments logger template arguments) := by
  have hitems : Within CreatesLoggers (argumentsOf arguments) :=
    ((within_itemsOf arguments).mono SameLogging.createsLoggers).rescue fun _ => within_pure _
  refine (within_conversionEither logger template).bind fun t => ?_
  split
  · exact (isInspection_filled t _).createsLoggers
  · exact hitems.bind fun items => within_mapM_convert_filled logger t items

end Run

/-- One of the calls that may create loggers leads from one session to another, whatever
it gives or raises. -/
inductive Session.Calls (check : Checker) : Session → Session → Prop
  /-- A logger is asked for. -/
  | logger (name : Obj) (s : Session) : Calls check s ((Guarded.logger check name).run s).2
  /-- A template is filled with listed arguments. -/
  | formatArguments (logger : Obj) (template : TextOrObj) (arguments : Obj) (s : Session) :
    Calls check s ((Run.formatArguments logger template arguments).run s).2
  /-- A template is filled with given arguments. -/
  | format (logger : Obj) (template : TextOrObj) (arguments : List Obj) (s : Session) :
    Calls check s ((Run.format logger template arguments).run s).2

namespace Registry

/-- A host notices no change of the loggers that it has. -/
structure IsTransparent (r r' : Registry) : Prop where
  /-- The root keeps its settings. -/
  root_eq : r'.root = r.root
  /-- A logger that is there keeps its level, its handlers, and whether it is disabled and
  propagates. -/
  find?_of_some : ∀ name l, r.find? name = some l → r'.find? name = some l
  /-- Loggers are created behind those that are there. They have no level and no handlers,
  are enabled and propagate. -/
  exists_loggers_eq : ∃ created : List Text, r'.loggers = r.loggers ++ created.map Logger.fresh
  /-- The level that decides stays the same. -/
  effectiveLevel_eq : r.FollowsDots → r'.FollowsDots → ∀ name, r.IsThere name →
    r'.effectiveLevel name = r.effectiveLevel name
  /-- The handlers that a record meets stay the same, in their order. -/
  handlerChain_eq : r.FollowsDots → r'.FollowsDots → ∀ name, r.IsThere name →
    r'.handlerChain name = r.handlerChain name
  /-- The handlers that receive a record stay the same, in their order. -/
  receivers_eq : r.FollowsDots → r'.FollowsDots → ∀ name, r.IsThere name →
    ∀ severity, r'.receivers name severity = r.receivers name severity

namespace OnlyCreates

variable {r r' : Registry} {name : Text}

/-- A logger that is there is found as it was. -/
theorem logger_eq (h : r.OnlyCreates r') (hname : r.IsThere name) :
    r'.logger name = r.logger name := by
  unfold logger
  split
  · exact h.root_eq
  · next hroot =>
    obtain ⟨l, hl⟩ := Option.isSome_iff_exists.mp (hname.resolve_left hroot)
    rw [hl, h.find?_of_some hl]

/-- The level that decides about records stays the same. -/
theorem effectiveLevel_eq (h : r.OnlyCreates r') (hr : r.FollowsDots) (hr' : r'.FollowsDots)
    (hname : r.IsThere name) : r'.effectiveLevel name = r.effectiveLevel name :=
  (h.widens_lineage hr hr' hname).firstLevel_eq

/-- The handlers on the way of a record stay the same. -/
theorem handlerChain_eq (h : r.OnlyCreates r') (hr : r.FollowsDots) (hr' : r'.FollowsDots)
    (hname : r.IsThere name) : r'.handlerChain name = r.handlerChain name :=
  (h.widens_lineage hr hr' hname).met_eq

/-- The handlers that receive a record stay the same. -/
theorem receivers_eq (h : r.OnlyCreates r') (hr : r.FollowsDots) (hr' : r'.FollowsDots)
    (hname : r.IsThere name) (severity : Int) :
    r'.receivers name severity = r.receivers name severity := by
  unfold receivers isEnabledFor
  rw [h.logger_eq hname, h.effectiveLevel_eq hr hr' hname, h.handlerChain_eq hr hr' hname]

/-- A host does not notice that loggers are created. -/
theorem isTransparent (h : r.OnlyCreates r') : r.IsTransparent r' where
  root_eq := h.root_eq
  find?_of_some := fun _ _ hl => h.find?_of_some hl
  exists_loggers_eq := h.exists_loggers_eq
  effectiveLevel_eq := fun hr hr' _ hname => h.effectiveLevel_eq hr hr' hname
  handlerChain_eq := fun hr hr' _ hname => h.handlerChain_eq hr hr' hname
  receivers_eq := fun hr hr' _ hname => h.receivers_eq hr hr' hname

end OnlyCreates

end Registry

namespace Session

section

variable {check : Checker} {s t : Session} (hcheck : check.IsSound)

include hcheck

/-- A call creates loggers at most. -/
theorem Calls.createsLoggers (h : Calls check s t) : s.CreatesLoggers t := by
  cases h with
  | logger name => exact (Guarded.within_logger hcheck name s).createsLoggers
  | formatArguments logger template arguments =>
    exact Run.within_formatArguments logger template arguments s
  | format logger template arguments => exact Run.within_format logger template arguments s

/-- Any number of calls create loggers at most. -/
theorem createsLoggers_of_calls (h : Relation.ReflTransGen (Calls check) s t) :
    s.CreatesLoggers t := by
  induction h with
  | refl => exact refl s
  | tail _ hlast ih => exact IsTrans.trans _ _ _ ih (hlast.createsLoggers hcheck)

/-- A host notices no calls, however many. -/
theorem isTransparent_of_calls (h : Relation.ReflTransGen (Calls check) s t) :
    s.registry.IsTransparent t.registry :=
  (createsLoggers_of_calls hcheck h).isTransparent

end

/-- The loggers `a` and `a.b.c` of a host. Both have handlers, and the first one lets no
record pass. -/
def hostRegistry : Registry :=
  { Registry.initial with
    loggers := [⟨.ofString "a", 10, false, false, [⟨2, []⟩]⟩,
      ⟨.ofString "a.b.c", 0, false, true, [⟨3, [.form .text]⟩, ⟨4, []⟩]⟩] }

/-- A session with these loggers, the text `a.b`, and an instance of a class that scripts
a text that throws. -/
def hostSession : Session :=
  { Session.start 0 with
    registry := hostRegistry
    store := ⟨#[
      ⟨.known .text, .text (.ofString "a.b")⟩,
      ⟨.known .type, .cls { plainClass (.ofString "Bad") [.known .object] with
        text? := some ⟨.throws (.cell 3), []⟩ }⟩,
      ⟨.cell 1, .bare⟩,
      ⟨.known .runtimeError, .exception [] .none⟩]⟩ }

/-- The session after asking for the logger `a.b` and filling a template that cannot be
converted. -/
def hostSessionAfter : Session :=
  ((Run.formatArguments .null (.object (.cell 2)) .null).run
    ((Guarded.logger .strict (.cell 0)).run hostSession).2).2

/-- The loggers after these calls. -/
theorem registry_hostSessionAfter : hostSessionAfter.registry =
    { hostRegistry with loggers := hostRegistry.loggers ++
      [.fresh (.ofString "a.b"), .fresh Lenient.defaultLogger] } := by
  decide +kernel

/-- The parent of `a.b.c` changes with these calls, and the host does not notice. -/
theorem isTransparent_of_calls_between :
    hostSession.registry.parentName? (.ofString "a.b.c") = some (.ofString "a") ∧
      hostSessionAfter.registry.parentName? (.ofString "a.b.c") = some (.ofString "a.b") ∧
      hostSession.registry.FollowsDots ∧ hostSessionAfter.registry.FollowsDots ∧
      hostSession.registry.IsTransparent hostSessionAfter.registry := by
  have hbefore : hostSession.registry.FollowsDots :=
    Registry.followsDots_of_isOrdinary (r := hostRegistry) (by decide)
  have hafter : hostSessionAfter.registry.FollowsDots := by
    rw [registry_hostSessionAfter]
    exact Registry.followsDots_of_isOrdinary (by decide +kernel)
  have hcalls : Relation.ReflTransGen (Calls .strict) hostSession hostSessionAfter :=
    (Relation.ReflTransGen.single (.logger (.cell 0) hostSession)).tail
      (.formatArguments .null (.object (.cell 2)) .null _)
  have hthere : hostSessionAfter.registry.has (.ofString "a.b.c") = true := by
    rw [registry_hostSessionAfter]
    rfl
  refine ⟨?_, ?_, hbefore, hafter, isTransparent_of_calls Checker.isSound_strict hcalls⟩
  · rw [hbefore (.ofString "a.b.c") rfl]
    rfl
  · rw [hafter (.ofString "a.b.c") hthere, registry_hostSessionAfter]
    rfl

end Session

namespace Registry

/-- The logger `a` of a host and its logger `a..b`, from which the lookup hides the first
one. -/
def hidingRegistry : Registry :=
  { initial with loggers := [⟨.ofString "a", 10, false, true, []⟩, .fresh (.ofString "a..b")] }

/-- Where the lookup hides an ancestor, a creation can show, so the rule about the dots is
needed. Once there is a logger `a.`, the level of `a` decides for `a..b` as well. -/
theorem exists_effectiveLevel_ne : ∃ r r' : Registry, r.OnlyCreates r' ∧ ∃ name, r.IsThere name ∧
    r'.effectiveLevel name ≠ r.effectiveLevel name := by
  have hname : ancestors (.ofString "a..b") = [.ofString "a."] := by
    change ancestors [0x61, 0x2E, 0x2E, 0x62] = [[0x61, 0x2E]]
    simp [ancestors, ancestorsBackward, Text.dot, List.dropWhile]
  have hbetween : ancestors (.ofString "a.") = [.ofString "a"] := by
    change ancestors [0x61, 0x2E] = [[0x61]]
    simp [ancestors, ancestorsBackward, Text.dot, List.dropWhile]
  have hbefore : hidingRegistry.parentName? (.ofString "a..b") = none := by
    rw [parentName?, hname]
    rfl
  have hafter : (hidingRegistry.ensure (.ofString "a.")).parentName? (.ofString "a..b") =
      some (.ofString "a.") := by
    rw [parentName?, hname]
    rfl
  have hnext : (hidingRegistry.ensure (.ofString "a.")).parentName? (.ofString "a.") =
      some (.ofString "a") := by
    rw [parentName?, hbetween]
    rfl
  have hroot : hidingRegistry.effectiveLevel (.ofString "a..b") = Logger.warningLevel := by
    rw [effectiveLevel, lineage, if_neg (by decide), lineageBelow_of_none hbefore]
    rfl
  have ha : (hidingRegistry.ensure (.ofString "a.")).effectiveLevel (.ofString "a..b") = 10 := by
    rw [effectiveLevel, lineage, if_neg (by decide), lineageBelow_of_some hafter,
      lineageBelow_of_some hnext, lineageBelow]
    rfl
  refine ⟨hidingRegistry, _, .ensure hidingRegistry (.ofString "a."), .ofString "a..b",
    .inr rfl, ?_⟩
  rw [hroot, ha]
  decide

end Registry

end LenientText
