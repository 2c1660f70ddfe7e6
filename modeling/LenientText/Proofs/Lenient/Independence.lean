import LenientText.Proofs.Lenient.AllOrNothing
import LenientText.Proofs.Logging.Insertion
import LenientText.Proofs.Object.Reachability

/-!
# Formatting does not depend on logging

A call with listed arguments reads the loggers in three places. A logger that is written shows
the level in force. Where a warning is handled at all, it is looked whether the exception
attached to it counts as true and where it was thrown. And the handlers that show the warning
may ask the exception for its text. So the calls in two sessions that differ in their loggers
and warnings only, each on a logger of its own, come to the same if none of this shows: if every
logger that the template or the arguments lead to is displayed in the same way, and if the
exceptions that these lead to are treated alike or call no hooks of their own. The same hooks are
then called in the same order, and the same warnings are issued apart from the loggers and from
who receives them. Creating the default logger on the way shows nowhere. Each of the three
conditions is needed.
-/

namespace LenientText

/-- Two warnings tell the same, whichever loggers they are issued on and whoever receives
them. -/
structure Warning.IsLike (w w' : Warning) : Prop where
  /-- The message. -/
  message_eq : w'.message = w.message
  /-- What made the conversion fail. -/
  cause_eq : w'.cause = w.cause

namespace Store

/-- A template or arguments lead to an object: a chain of references leads from one of them to
it. -/
def Involves (s : Store) (template : TextOrObj) (arguments : Obj) (o : Obj) : Prop :=
  ∃ root, (template = .object root ∨ arguments = root) ∧ s.Reaches root o

/-- An exception can be looked at for a warning without calling hooks and without raising
anything, whatever objects are made besides. -/
def IsWeighedQuietly (s : Store) (e : Obj) : Prop :=
  ∀ u : Session, s.IsContinuedBy u.store →
    ∃ attached, (Run.weigh (.thrown e)).run u = (.ok attached, u)

/-- An exception calls no hooks whatever a handler asks of it, and whatever objects are made
besides. -/
def IsShownQuietly (s : Store) (e : Obj) : Prop :=
  ∀ u : Session, s.IsContinuedBy u.store → ∀ q, (Run.put (.thrown e) q).run u = (.ok (), u)

end Store

namespace Session

/-- Two sessions differ in their loggers and warnings at most. -/
structure IsTwin (s t : Session) : Prop where
  /-- The objects are the same. -/
  store_eq : t.store = s.store
  /-- The same hooks have been called, in the same order. -/
  calls_eq : t.calls = s.calls
  /-- The same objects have been asked for their identity, in the same order. -/
  identified_eq : t.identified = s.identified
  /-- Identities begin with the same number. -/
  firstIdentity_eq : t.firstIdentity = s.firstIdentity
  /-- Memory holds the same. -/
  capacity_eq : t.capacity = s.capacity

/-- A session has the loggers that another one has before or after the logger in use is made
ready. -/
def HasLoggersOf (u s : Session) (logger : Obj) : Prop :=
  u.registry = s.registry ∨ u.registry = (s.readied logger).registry

/-- Warnings are handled in two sessions, each on the logger in use, or in neither. -/
def AreHandledAlike (s t : Session) (logger logger' : Obj) : Prop :=
  (t.readied logger').registry.isEnabledFor (Lenient.loggerName logger') Logger.warningLevel =
    (s.readied logger).registry.isEnabledFor (Lenient.loggerName logger) Logger.warningLevel

/-- The handlers ask the same of an exception in two sessions, each on the logger in use. -/
def AreAskedAlike (s t : Session) (logger logger' : Obj) : Prop :=
  ∀ attached, (t.readied logger').registry.questions (Lenient.loggerName logger')
      Logger.warningLevel attached =
    (s.readied logger).registry.questions (Lenient.loggerName logger) Logger.warningLevel attached

/-- Loggers and exceptions of some kind do not tell two sessions apart, each with a logger in
use. -/
structure IsIndifferent (s t : Session) (logger logger' : Obj) (kind : Obj → Prop) : Prop where
  /-- Loggers are displayed in the same way. -/
  display_eq : ∀ name, kind (.logger name) →
    t.registry.display name = s.registry.display name
  /-- Warnings are handled in both sessions or in neither, or exceptions are weighed quietly. -/
  isWeighed : s.AreHandledAlike t logger logger' ∨
    ∀ e, kind e → s.store.isA e .exception = true → s.store.IsWeighedQuietly e
  /-- Handlers ask the same in both sessions, or exceptions are shown quietly. -/
  isShown : s.AreAskedAlike t logger logger' ∨
    ∀ e, kind e → s.store.isA e .exception = true → s.store.IsShownQuietly e

/-- Two sessions have come from two others and are twins, have the loggers of these, and have
issued the same warnings since. -/
structure AreTwinsSince (s t : Session) (logger logger' : Obj) (u w : Session) : Prop where
  /-- They differ in their loggers and warnings at most. -/
  isTwin : u.IsTwin w
  /-- The one has its loggers. -/
  hasLoggersOf : u.HasLoggersOf s logger
  /-- The other one has its loggers. -/
  hasLoggersOf_other : w.HasLoggersOf t logger'
  /-- The same warnings have been issued. -/
  exists_warnings : ∃ issued issued', u.warnings = s.warnings ++ issued ∧
    w.warnings = t.warnings ++ issued' ∧ List.Forall₂ Warning.IsLike issued issued'

variable {s t u u' w w' : Session} {logger logger' : Obj}

/-- The default logger has an inert name. -/
theorem isInert_defaultLogger : Registry.IsInert Lenient.defaultLogger where
  getLast?_ne := by decide
  head?_ne := by decide

/-- Loggers are displayed as before when the one in use is made ready. -/
theorem HasLoggersOf.display_eq (h : u.HasLoggersOf s logger) (name : Text) :
    u.registry.display name = s.registry.display name := by
  have hready : (s.readied logger).registry.display name = s.registry.display name := by
    cases logger with
    | null => exact Registry.display_ensure (.inr isInert_defaultLogger) name
    | bool | known | logger | cell => rfl
  rcases h with h | h
  · rw [h]
  · rw [h, hready]

/-- The logger in use is made ready once. -/
theorem HasLoggersOf.registry_readied (h : u.HasLoggersOf s logger) :
    (u.readied logger).registry = (s.readied logger).registry := by
  cases logger with
  | null =>
    change u.registry.ensure Lenient.defaultLogger = s.registry.ensure Lenient.defaultLogger
    rcases h with h | h
    · rw [h]
    · rw [h]
      exact Registry.ensure_of_isThere (Registry.isThere_ensure s.registry _)
  | bool | known | logger | cell => exact h.elim id id

/-- Twins are left when the loggers in use are made ready. -/
theorem AreTwinsSince.readied (h : AreTwinsSince s t logger logger' u w) :
    AreTwinsSince s t logger logger' (u.readied logger) (w.readied logger') where
  isTwin := by
    have hready : ∀ (v : Session) (l : Obj),
        ∃ registry, v.readied l = { v with registry } := by
      intro v l
      cases l <;> exact ⟨_, rfl⟩
    obtain ⟨registry, hu⟩ := hready u logger
    obtain ⟨registry', hw⟩ := hready w logger'
    rw [hu, hw]
    exact { h.isTwin with }
  hasLoggersOf := .inr h.hasLoggersOf.registry_readied
  hasLoggersOf_other := .inr h.hasLoggersOf_other.registry_readied
  exists_warnings := by
    rw [warnings_readied, warnings_readied]
    exact h.exists_warnings

/-- Warnings on loggers of the two sessions leave them twins. -/
theorem AreTwinsSince.warned (h : AreTwinsSince s t logger logger' u w) (message : Text)
    (cause : Raised) : AreTwinsSince s t logger logger'
      (u.warned (Lenient.loggerName logger) message cause)
      (w.warned (Lenient.loggerName logger') message cause) where
  isTwin := { h.isTwin with }
  hasLoggersOf := h.hasLoggersOf
  hasLoggersOf_other := h.hasLoggersOf_other
  exists_warnings := by
    obtain ⟨issued, issued', hu, hw, hlike⟩ := h.exists_warnings
    refine ⟨issued ++ [u.warning (Lenient.loggerName logger) message cause],
      issued' ++ [w.warning (Lenient.loggerName logger') message cause], ?_, ?_, ?_⟩
    · rw [← List.append_assoc, ← hu]
      rfl
    · rw [← List.append_assoc, ← hw]
      rfl
    · exact List.rel_append hlike (.cons ⟨rfl, rfl⟩ .nil)

/-- Twins that go on without logging have come from the same sessions. -/
theorem AreTwinsSince.of_sameLogging (h : AreTwinsSince s t logger logger' u w)
    (hu : u.SameLogging u') (hw : w.SameLogging w') (htwin : u'.IsTwin w') :
    AreTwinsSince s t logger logger' u' w' where
  isTwin := htwin
  hasLoggersOf := by
    rw [HasLoggersOf, hu.registry_eq]
    exact h.hasLoggersOf
  hasLoggersOf_other := by
    rw [HasLoggersOf, hw.registry_eq]
    exact h.hasLoggersOf_other
  exists_warnings := by
    rw [hu.warnings_eq, hw.warnings_eq]
    exact h.exists_warnings

/-- Twins are twins since they were. -/
theorem IsTwin.areTwinsSince (h : s.IsTwin t) (logger logger' : Obj) :
    AreTwinsSince s t logger logger' s t where
  isTwin := h
  hasLoggersOf := .inl rfl
  hasLoggersOf_other := .inl rfl
  exists_warnings := ⟨[], [], (List.append_nil _).symm, (List.append_nil _).symm, .nil⟩

end Session

/-- Two calls in two sessions come to the same, apart from logging. -/
structure ComesToSame (s t : Session) (p q : Except Raised Text × Session) : Prop where
  /-- The same text is given, or the same is raised. -/
  outcome_eq : q.1 = p.1
  /-- The sessions left differ in their loggers and warnings at most, so the same hooks have been
  called in the same order. -/
  isTwin : p.2.IsTwin q.2
  /-- The same warnings have been issued, apart from the loggers and from who receives them. -/
  exists_warnings : ∃ issued issued', p.2.warnings = s.warnings ++ issued ∧
    q.2.warnings = t.warnings ++ issued' ∧ List.Forall₂ Warning.IsLike issued issued'

namespace Session

variable {s t u w : Session} {logger logger' : Obj}

/-- Runs with the same outcome that leave twins come to the same. -/
theorem AreTwinsSince.comesToSame (h : AreTwinsSince s t logger logger' u w)
    (r : Except Raised Text) : ComesToSame s t (r, u) (r, w) where
  outcome_eq := rfl
  isTwin := h.isTwin
  exists_warnings := h.exists_warnings

/-- Listing an object settles on the same among twins, and leaves them twins. -/
theorem IsTwin.listing (h : u.IsTwin w) (o : Obj) :
    (Listing.start o w).settled = (Listing.start o u).settled ∧
      (Listing.start o u).after.IsTwin (Listing.start o w).after := by
  have hlisted : w.store.listed w.capacity o = u.store.listed u.capacity o := by
    rw [h.store_eq, h.capacity_eq]
  have hcalls : (w.afterListing o).calls = (u.afterListing o).calls := by
    rw [afterListing, afterListing, withCalls, withCalls, h.store_eq, h.capacity_eq, h.calls_eq]
  cases hl : u.store.listed u.capacity o with
  | ok items =>
    rw [Listing.start_of_listed hl, Listing.start_of_listed (hlisted.trans hl), h.store_eq]
    exact ⟨rfl, { h with store_eq := rfl, calls_eq := hcalls }⟩
  | error e =>
    have hisOrdinary : e.isOrdinary w.store = e.isOrdinary u.store := by rw [h.store_eq]
    rw [Listing.start_of_listed_eq_error hl,
      Listing.start_of_listed_eq_error (hlisted.trans hl)]
    refine ⟨?_, { h with calls_eq := hcalls }⟩
    exact congrArg (fun b : Bool => if b then Except.ok [o] else .error e) hisOrdinary

end Session

namespace Overlap

/-- What a template and arguments lead to is known. -/
def involved (s : Store) (template : TextOrObj) (arguments : Obj) : Overlap :=
  reached s fun root => template = .object root ∨ arguments = root

section

variable {s : Store} {template : TextOrObj} {arguments o : Obj} {name : Text}

/-- A template is known to lead to itself. -/
theorem knowsEither_template : (involved s template arguments).KnowsEither template := by
  cases template with
  | text t => trivial
  | object o => exact .inl ⟨o, .inl rfl, .refl⟩

/-- Arguments are known to lead to themselves. -/
theorem known_arguments : (involved s template arguments).known arguments :=
  .inl ⟨arguments, .inr rfl, .refl⟩

/-- A logger is known only if the template or the arguments lead to it. -/
theorem involves_of_known_logger (h : (involved s template arguments).known (.logger name)) :
    s.Involves template arguments (.logger name) := by
  rcases h with hinvolved | hnull | ⟨k, hk⟩
  · exact hinvolved
  · cases hnull
  · cases hk

/-- So is an exception. -/
theorem involves_of_known_exception (h : (involved s template arguments).known o)
    (ho : s.isA o .exception = true) : s.Involves template arguments o := by
  rcases h with hinvolved | rfl | ⟨k, rfl⟩
  · exact hinvolved
  · cases ho
  · cases k <;> cases ho

end

/-- One overlap goes on from another one: its store continues the other one, and no loggers or
exceptions are known in it but those that were. -/
structure GoesOn (v w : Overlap) : Prop where
  /-- The two stores of the second one are the same. -/
  otherStore_eq : w.otherStore = w.store
  /-- Objects that were there stay where they were. -/
  isContinuedBy : v.store.IsContinuedBy w.store
  /-- What was known is known. -/
  known : ∀ o, v.known o → w.known o
  /-- A known logger was known. -/
  known_logger : ∀ name, w.known (.logger name) → v.known (.logger name)
  /-- A known exception was known, and was an exception. -/
  known_exception : ∀ o, w.known o → w.store.isA o .exception = true →
    v.known o ∧ v.store.isA o .exception = true

variable {s : Store} {roots : Obj → Prop} {u : Session} {o : Obj} {items : List Obj}

/-- What is reached from some roots goes on as it is. -/
theorem goesOn_reached : (reached s roots).GoesOn (reached s roots) where
  otherStore_eq := rfl
  isContinuedBy _ _ := rfl
  known _ := id
  known_logger _ := id
  known_exception _ ho he := ⟨ho, he⟩

/-- It goes on with new items. -/
theorem goesOn_reachedOrNew {es : List Entity} (hes : ∀ e ∈ es, e.IsItem) :
    (reached s roots).GoesOn (reachedOrNew s roots hes) where
  otherStore_eq := rfl
  isContinuedBy := s.isContinuedBy_extend es
  known _ := .inl
  known_logger := by
    rintro name (hname | hnew)
    · exact hname
    · obtain ⟨i, -, hi⟩ := List.mem_map.mp hnew
      cases hi
  known_exception := by
    intro o ho he
    have hbefore : s.isA o .exception = true := Store.isA_exception_of_extend hes he
    refine ⟨ho.resolve_right fun hnew => ?_, hbefore⟩
    rw [Store.isA, Store.typeOf, Store.entity_of_mem_newCells hnew] at hbefore
    cases hbefore

/-- After an object that is reached from some roots has been listed, what there is to convert is
known. -/
theorem exists_goesOn_of_settled (ho : (reached s roots).known o) (hstore : u.store = s)
    (h : (Listing.start o u).settled = .ok items) :
    ∃ v : Overlap, (reached s roots).GoesOn v ∧ (Listing.start o u).after.store = v.store ∧
      ∀ p ∈ items, v.known p := by
  subst hstore
  cases hl : u.store.listed u.capacity o with
  | ok listed =>
    have hknown : listed.AreKnown (reached u.store roots) :=
      areKnown_of_yielded ho (Store.yielded_of_listed hl)
    rw [Listing.start_of_listed hl] at h ⊢
    cases h
    exact ⟨_, goesOn_reachedOrNew (isItem_of_areKnown hknown), rfl,
      fun p hp => known_of_mem_references hknown hp⟩
  | error e =>
    rw [Listing.start_of_listed_eq_error hl] at h ⊢
    refine ⟨reached u.store roots, goesOn_reached, rfl, ?_⟩
    unfold Listing.settled at h
    dsimp only at h
    split at h
    · cases h
      intro p hp
      rw [List.mem_singleton.mp hp]
      exact ho
    · cases h

end Overlap

/-- If what a template and arguments lead to does not tell two sessions apart, nothing does that
is known then. -/
theorem Session.IsIndifferent.involved {s t : Session} {logger logger' arguments : Obj}
    {template : TextOrObj}
    (h : s.IsIndifferent t logger logger' (s.store.Involves template arguments)) :
    s.IsIndifferent t logger logger' (Overlap.involved s.store template arguments).known where
  display_eq name hname := h.display_eq name (Overlap.involves_of_known_logger hname)
  isWeighed := h.isWeighed.imp id fun hall e he hisA =>
    hall e (Overlap.involves_of_known_exception he hisA) hisA
  isShown := h.isShown.imp id fun hall e he hisA =>
    hall e (Overlap.involves_of_known_exception he hisA) hisA

/-- The coupling of sessions that have been twins since two others, which nothing known tells
apart, and of the objects that are known then. -/
def Coupling.twins {v v' : Overlap} {s t : Session} {logger logger' : Obj} (hv : v.GoesOn v')
    (h : s.IsIndifferent t logger logger' v.known) : Coupling where
  toOverlap := v'
  related u w := u.store = v'.store ∧ Session.AreTwinsSince s t logger logger' u w
  store_eq h := h.1
  otherStore_eq := by
    rintro u w ⟨hstore, h⟩
    rw [h.isTwin.store_eq, hv.otherStore_eq]
    exact hstore
  display_eq := by
    rintro u w name ⟨-, htwins⟩ hknown
    rw [htwins.hasLoggersOf_other.display_eq, htwins.hasLoggersOf.display_eq,
      h.display_eq name (hv.known_logger name hknown)]
  count_eq := by
    rintro u w hook ⟨-, h⟩ - owner
    rw [h.isTwin.calls_eq]
  identified_eq h := h.2.isTwin.identified_eq
  firstIdentity_eq h := h.2.isTwin.firstIdentity_eq
  related_call := by
    rintro u w ⟨hstore, h⟩ call
    have hcalls : w.calls ++ [call] = u.calls ++ [call] := congrArg (· ++ _) h.isTwin.calls_eq
    exact ⟨hstore, h.of_sameLogging ⟨rfl, rfl⟩ ⟨rfl, rfl⟩ { h.isTwin with calls_eq := hcalls }⟩
  related_identified := by
    rintro u w ⟨hstore, h⟩ identified
    exact ⟨hstore, h.of_sameLogging ⟨rfl, rfl⟩ ⟨rfl, rfl⟩ { h.isTwin with identified_eq := rfl }⟩

namespace Run

open Session

section

variable {v v' : Overlap} {s t u w : Session} {logger logger' : Obj}

/-- Twins are left by computations that concur, and these come to the same. -/
theorem Concur.comesToSame {hv : v.GoesOn v'} {h : s.IsIndifferent t logger logger' v.known}
    {P : Text → Prop} {x y : Run Text} (hxy : Concur (.twins hv h) P x y)
    (hu : u.store = v'.store) (htwins : AreTwinsSince s t logger logger' u w) :
    ComesToSame s t (x.run u) (y.run w) := by
  obtain ⟨r, p, q, hp, hq, ⟨-, hend⟩, -⟩ := hxy ⟨hu, htwins⟩
  rw [hp, hq]
  exact hend.comesToSame r

/-- Warnings about a known exception concur among twins, each on a logger of its own. -/
theorem concur_warn_twins (hg : Lenient.IsLoggerOrNull logger)
    (hg' : Lenient.IsLoggerOrNull logger') (hstore : v.store = s.store) (hv : v.GoesOn v')
    (h : s.IsIndifferent t logger logger' v.known) (message : Text) (cause : Raised)
    (hc : v'.KnowsRaised cause) (ho : cause.isOrdinary v'.store = true) :
    Concur (.twins hv h) (fun _ => True) (warn logger message cause)
      (warn logger' message cause) := by
  -- What is quiet in the store at the start is quiet in the one after listing.
  have hquiet : ∀ {P : Session → Prop}, (∀ f, cause = .fault f → ∀ u, P u) →
      (∀ e, cause = .thrown e → v.known e → s.store.isA e .exception = true →
        ∀ u : Session, s.store.IsContinuedBy u.store → P u) →
      ∀ u : Session, u.store = v'.store ∨ u.store = v'.otherStore → P u := by
    intro P hfault hthrown u hu
    rw [hv.otherStore_eq, or_self] at hu
    cases hcause : cause with
    | fault f => exact hfault f hcause u
    | thrown e =>
      rw [hcause] at hc ho
      obtain ⟨hknown, he⟩ := hv.known_exception e hc ho
      rw [hstore] at he
      refine hthrown e hcause hknown he u ?_
      rw [hu, ← hstore]
      exact hv.isContinuedBy
  rintro p q ⟨hp, htwins⟩
  have hready := htwins.hasLoggersOf.registry_readied
  have hready' := htwins.hasLoggersOf_other.registry_readied
  refine exists_run_warn hg hg' hc ⟨?_, htwins.readied⟩ ?_ ?_ fun u w huw _ _ =>
    ⟨huw.1, huw.2.warned message cause⟩
  · rw [store_readied]
    exact hp
  · rw [hready, hready']
    refine h.isWeighed.imp id fun hall => hquiet ?_ ?_
    · rintro f rfl u
      exact ⟨_, rfl⟩
    · rintro e rfl hknown he
      exact hall e hknown he
  · rw [hready, hready']
    refine h.isShown.imp id fun hall => hquiet ?_ ?_
    · rintro f rfl u q
      rfl
    · rintro e rfl hknown he
      exact hall e hknown he

end

section

variable {s t : Session} {logger logger' arguments : Obj} {template : TextOrObj}

end

end Run

/-- An exception without arguments has nothing to show inside it, whatever its class. -/
theorem Store.saying_nil (s : Store) (o : Obj) (detail : Detail) :
    s.saying o [] detail = .arguments ∨ ∃ t, s.saying o [] detail = .text t := by
  unfold saying
  split
  · exact .inl rfl
  split
  · exact .inr ⟨_, rfl⟩
  iterate 5
    split
    · exact .inl rfl
  exact .inl rfl

namespace Run

section

variable {s : Session} {o : Obj} {k : KnownClass} {detail : Detail}
  (h : s.store.entity o = ⟨.known k, .exception [] detail⟩)

include h

/-- Asking an exception of a known class without arguments for its text has no effect. -/
theorem run_textWith_of_exception (inside : Form → List Obj → Obj → Run TextOrObj) :
    ((textWith inside [] o).run s).2 = s := by
  have htype : s.store.typeOf o = .known k := congrArg Entity.type h
  have hcontent : s.store.content o = .exception [] detail := congrArg Entity.content h
  have hhook : s.store.textHook? (.known k) = none :=
    s.store.findSome?_lineage_known k fun _ => rfl
  rw [textWith, run_bind_of_ok (run_store s), htype, hhook]
  dsimp only
  rw [hcontent]
  dsimp only
  rw [explanation, run_bind_of_ok (run_store s)]
  rcases s.store.saying_nil o detail with hsaying | ⟨t, hsaying⟩
  · rw [hsaying]
    rfl
  · rw [hsaying]
    rfl

/-- Neither has asking it for its display form. -/
theorem run_displayWith_of_exception (inside : List Obj → Obj → Run Text) :
    ((displayWith .display inside [] o).run s).2 = s := by
  have htype : s.store.typeOf o = .known k := congrArg Entity.type h
  have hcontent : s.store.content o = .exception [] detail := congrArg Entity.content h
  have hhook : s.store.displayHook? (.known k) = none :=
    s.store.findSome?_lineage_known k fun _ => rfl
  have hget : (get : Run Session).run s = (.ok s, s) := rfl
  rw [displayWith, run_bind_of_ok (run_store s), htype, hhook]
  dsimp only
  rw [run_map, contentDisplay.eq_def, run_bind_of_ok hget]
  dsimp only
  rw [hcontent]
  split
  · rfl
  · rfl
  · rfl
  · split <;> rfl

/-- So writing it has no effect. -/
theorem run_written_of_exception (f : Form) : ((written f o).run s).2 = s := by
  obtain ⟨depth, hdepth⟩ := exists_written_eq f o
  rw [hdepth]
  cases f with
  | text => exact run_textWith_of_exception h _
  | display => exact run_displayWith_of_exception h _

end

end Run

namespace Store

variable {s : Store} {o : Obj} {k : KnownClass}

/-- An exception of a known class is weighed quietly. -/
theorem isWeighedQuietly_of_known (ho : s.Holds o) (h : s.typeOf o = .known k) :
    s.IsWeighedQuietly o := by
  intro u hu
  have htype : u.store.typeOf o = .known k := by
    rw [typeOf, hu o ho]
    exact h
  exact ⟨_, Run.run_weigh_of_isTakenPlainly (isTakenPlainly_of_known htype)⟩

/-- Without arguments it is shown quietly as well. -/
theorem isShownQuietly_of_known {detail : Detail} (ho : s.Holds o)
    (h : s.entity o = ⟨.known k, .exception [] detail⟩) : s.IsShownQuietly o := by
  intro u hu q
  have hentity : u.store.entity o = ⟨.known k, .exception [] detail⟩ := (hu o ho).trans h
  have htype : u.store.typeOf o = .known k := congrArg Entity.type hentity
  cases q with
  | truth =>
    have htruth := Run.run_truthOf_of_isTakenPlainly (isTakenPlainly_of_known htype)
    change (Run.attempt (Run.truthOf o)).run u = _
    rw [Run.run_attempt, htruth]
  | form f =>
    change (Run.attempt (Run.written f o)).run u = _
    rw [Run.run_attempt, Run.run_written_of_exception hentity]
  | ofClass a =>
    have hread : ((Run.read (.known k) a).run u).2 = u := by
      rw [Run.read, Run.run_bind_of_ok (Run.run_store u), typeOf_known, attributeHook?_known]
      dsimp only
      split <;> rfl
    change (Run.attempt (do Run.read ((← Run.store).typeOf o) a)).run u = _
    rw [Run.run_attempt, Run.run_bind_of_ok (Run.run_store u), htype, hread]

end Store

/-- A session with a list of an object that cannot be converted, of the logger `a`, and of the
object once more. -/
def outspokenSession : Session :=
  { Session.start Session.defaultIdentity with
    registry := Registry.initial.configure (.ofString "a") fun l => { l with level := 30 }
    store := ⟨#[
      ⟨.known .runtimeError, .exception [] .none⟩,
      ⟨.known .type, .cls { plainClass (.ofString "Bad") [.known .object] with
        text? := some ⟨.throws (.cell 0), []⟩ }⟩,
      ⟨.cell 1, .bare⟩,
      ⟨.known .list, .list [.cell 2, .logger (.ofString "a"), .cell 2]⟩]⟩ }

/-- The session in which the logger is disabled and the default logger is there, with a level
and a handler of its own. -/
def silencedSession : Session :=
  { outspokenSession with
    registry := (Registry.initial.configure (.ofString "a") fun l =>
      { l with level := 30, isDisabled := true, propagates := false }).configure
        Lenient.defaultLogger fun l => { l with level := 50, handlers := [.lastResort] } }

/-- A reference means no logger but `a`, and no exception but that of the object. -/
def IsOutspoken : Obj → Prop
  | .logger name => name = .ofString "a"
  | o => outspokenSession.store.isA o .exception = true → o = .cell 0

instance : DecidablePred IsOutspoken
  | .logger name => inferInstanceAs (Decidable (name = .ofString "a"))
  | .null | .bool _ | .known _ | .cell _ => inferInstanceAs (Decidable (_ = true → _ = Obj.cell 0))

/-- The list leads to no other ones. -/
theorem isOutspoken_of_involves {o : Obj}
    (h : outspokenSession.store.Involves (.text [0x25, 0x73]) (.cell 3) o) : IsOutspoken o := by
  obtain ⟨root, hroot, hreaches⟩ := h
  have hknown : ∀ k, IsOutspoken (.known k) := by
    intro k
    cases k <;> exact fun h => by cases h
  refine Store.of_reaches hknown (by decide) ?_ hreaches
  rcases hroot with htext | rfl
  · cases htext
  · decide

/-- Its only exception is that of the object. -/
theorem eq_of_isOutspoken {o : Obj} (h : IsOutspoken o)
    (hexception : outspokenSession.store.isA o .exception = true) : o = .cell 0 := by
  cases o with
  | logger name =>
    obtain rfl : name = .ofString "a" := h
    cases hexception
  | null | bool | known | cell => exact h hexception

/-- A session with a list of the logger `a`, which has a level. -/
def loggerSession (level : Int) : Session :=
  { Session.start Session.defaultIdentity with
    registry := Registry.initial.configure (.ofString "a") fun l => { l with level }
    store := ⟨#[⟨.known .list, .list [.logger (.ofString "a")]⟩]⟩ }

/-- A session with an object whose class scripts a text that throws. The class of what is
thrown scripts a text as well, and may answer for its truth by throwing something else. The
root has a level and handlers. -/
def hookedSession (methods : List (Method × Behaviour)) (level : Int) (handlers : List Handler) :
    Session :=
  { Session.start Session.defaultIdentity with
    registry := ⟨⟨Registry.rootName, level, false, true, handlers⟩, []⟩
    store := ⟨#[
      ⟨.known .type, .cls { plainClass (.ofString "Bad") [.known .object] with
        text? := some ⟨.throws (.cell 3), []⟩ }⟩,
      ⟨.known .type, .cls { plainClass (.ofString "Hooked")
          [.known .exception, .known .baseException, .known .object] with
        text? := some ⟨.gives (.cell 5), []⟩
        methods }⟩,
      ⟨.cell 0, .bare⟩,
      ⟨.cell 1, .exception [] .none⟩,
      ⟨.known .runtimeError, .exception [] .none⟩,
      ⟨.known .text, .text [0x61]⟩]⟩ }

end LenientText
