import LenientText.Proofs.Lenient.Account
import LenientText.Proofs.Object.Locality
import Mathlib.Data.List.Forall2

/-!
# Conversions in parallel sessions

Two sessions are parallel if their stores have known objects in common and they differ in
nothing else than the calls by which objects are listed. A tolerant conversion of a known
object comes to the same in both, and leaves them parallel. So attempts to convert known values
one after the other are alike: the same values are converted with the same outcomes, and hooks
other than those for listing are called in the same order.
-/

namespace LenientText

namespace Session

/-- The calls of hooks other than those for listing. -/
def askings (s : Session) : List Call := s.calls.filter fun call => !call.hook.isOfListing

/-- Two sessions differ in their stores, which have known objects in common, and in the calls
for listing at most. -/
structure IsParallel (v : Overlap) (s t : Session) : Prop where
  /-- The one store. -/
  store_eq : s.store = v.store
  /-- The other session has the other store, and is the same apart from the calls. -/
  eq : t = { s with store := v.otherStore, calls := t.calls }
  /-- Other calls than those for listing are the same. -/
  askings_eq : t.askings = s.askings

variable {v : Overlap} {s t : Session}

/-- Calls of scripted hooks are counted among those of hooks other than those for listing. -/
theorem count_askings (s : Session) {hook : Hook} (h : hook.isScripted = true) (owner : Obj) :
    s.askings.count ⟨owner, hook⟩ = s.calls.count ⟨owner, hook⟩ := by
  refine List.count_filter ?_
  cases hook with
  | text | display | reading => rfl
  | items | method | listing => cases h

/-- A session is parallel to itself. -/
theorem isParallel_self (s : Session) : s.IsParallel (.whole s.store) s := ⟨rfl, rfl, rfl⟩

end Session

/-- Where a record is not handled, nothing is asked of what is attached to it. -/
theorem Registry.questions_eq_nil {r : Registry} {name : Text} {severity : Int}
    {attached : Attachment} (h : r.isEnabledFor name severity = false) :
    r.questions name severity attached = [] := by
  rw [questions, audience, if_neg (ne_true_of_eq_false h), List.flatMap_nil]

/-- The coupling of parallel sessions with a capacity. -/
def Coupling.parallel (v : Overlap) (capacity : Nat) : Coupling where
  toOverlap := v
  related s t := s.capacity = capacity ∧ s.IsParallel v t
  store_eq h := h.2.store_eq
  otherStore_eq h := by
    rw [h.2.eq]
  display_eq h _ := by
    rw [h.2.eq]
  count_eq := by
    intro s t hook h hscripted owner
    rw [← s.count_askings hscripted, ← t.count_askings hscripted, h.2.askings_eq]
  identified_eq h := by
    rw [h.2.eq]
  firstIdentity_eq h := by
    rw [h.2.eq]
  related_call := by
    intro s t h call
    refine ⟨h.1, h.2.store_eq, ?_, ?_⟩
    · rw [h.2.eq]
    · simp only [Session.askings, List.filter_append]
      exact congrArg (· ++ _) h.2.askings_eq
  related_identified := by
    intro s t h identified
    refine ⟨h.1, h.2.store_eq, ?_, h.2.askings_eq⟩
    rw [h.2.eq]

namespace Run

open Overlap

variable {c : Coupling} {logger logger' o : Obj} {cause : Raised} {value : TextOrObj}

/-- Naming the class of something known that was raised agrees. -/
theorem agrees_causeText (hc : c.KnowsRaised cause) :
    Agrees c (fun _ => True) (causeText cause) := by
  obtain ⟨htype, hknown⟩ := raisedType_eq hc
  refine agrees_store_bind ?_ ?_
  · rw [htype]
  · exact (agrees_qualifiedName hknown).bind fun name hname => agrees_inserted hname

/-- Sessions correspond after the same questions about something known have been put. -/
theorem related_answered (hc : c.KnowsRaised cause) {s t : Session} (h : c.related s t)
    (questions : List Question) : c.related (s.answered cause questions)
      (t.answered cause questions) := by
  have hput : Agrees c (fun _ => True) (questions.forM (put cause)) :=
    agrees_forM fun q => agrees_put hc q
  obtain ⟨r, u, w, hs, ht, huw, -⟩ := hput h
  rw [Session.answered, Session.answered, hs, ht]
  exact huw

/-- Looking at something known for warnings comes to the same in sessions that correspond, apart
from what nobody asks for. -/
theorem exists_run_weighFor {s t : Session} {name name' : Text} (h : c.related s t)
    (hc : c.KnowsRaised cause)
    (hweighed : t.registry.isEnabledFor name' Logger.warningLevel =
        s.registry.isEnabledFor name Logger.warningLevel ∨
      ∀ u, u.store = c.store ∨ u.store = c.otherStore →
        ∃ attached, (weigh cause).run u = (.ok attached, u)) :
    (∃ e u w, (weighFor name cause).run s = (.error e, u) ∧
      (weighFor name' cause).run t = (.error e, w) ∧ c.related u w ∧ c.KnowsRaised e) ∨
    ∃ attached attached' u w, (weighFor name cause).run s = (.ok attached, u) ∧
      (weighFor name' cause).run t = (.ok attached', w) ∧ c.related u w ∧
      ((∀ b, t.registry.questions name' Logger.warningLevel b =
          s.registry.questions name Logger.warningLevel b) →
        t.registry.questions name' Logger.warningLevel attached' =
          s.registry.questions name Logger.warningLevel attached) := by
  by_cases hsame : t.registry.isEnabledFor name' Logger.warningLevel =
      s.registry.isEnabledFor name Logger.warningLevel
  · rw [run_weighFor, run_weighFor, hsame]
    by_cases hon : s.registry.isEnabledFor name Logger.warningLevel = true
    · rw [if_pos hon, if_pos hon]
      obtain ⟨r, u, w, hu, hw, huw, hr⟩ := agrees_weigh hc h
      cases r with
      | error e => exact .inl ⟨e, u, w, hu, hw, huw, hr⟩
      | ok attached => exact .inr ⟨attached, attached, u, w, hu, hw, huw, fun hasked => hasked _⟩
    · rw [if_neg hon, if_neg hon]
      exact .inr ⟨_, _, s, t, rfl, rfl, h, fun hasked => hasked _⟩
  -- The two may differ here, but where the warning is not handled nobody asks.
  · have hquietly := hweighed.resolve_left hsame
    obtain ⟨attached, hs⟩ := hquietly s (.inl (c.store_eq h))
    obtain ⟨attached', ht⟩ := hquietly t (.inr (c.otherStore_eq h))
    refine .inr ⟨_, _, s, t, run_weighFor_of_weigh hs, run_weighFor_of_weigh ht, h,
      fun hasked => ?_⟩
    cases hon : s.registry.isEnabledFor name Logger.warningLevel with
    | false => rw [hasked, Registry.questions_eq_nil hon, Registry.questions_eq_nil hon]
    | true =>
      rw [hon] at hsame
      have hoff := eq_false_of_ne_true hsame
      rw [← hasked, Registry.questions_eq_nil hoff, Registry.questions_eq_nil hoff]

/-- Warnings about the same, each on a logger of its own, come to the same in sessions that
correspond once the loggers are there, if warnings are handled on both sides or on neither, or
what is attached is weighed quietly, and if the same is asked of it on both sides, or it
answers quietly. -/
theorem exists_run_warn (hg : Lenient.IsLoggerOrNull logger) (hg' : Lenient.IsLoggerOrNull logger')
    (hc : c.KnowsRaised cause) {s t : Session} {message : Text}
    (h : c.related (s.readied logger) (t.readied logger'))
    (hweighed : (t.readied logger').registry.isEnabledFor (Lenient.loggerName logger')
          Logger.warningLevel =
        (s.readied logger).registry.isEnabledFor (Lenient.loggerName logger) Logger.warningLevel ∨
      ∀ u, u.store = c.store ∨ u.store = c.otherStore →
        ∃ attached, (weigh cause).run u = (.ok attached, u))
    (hasked : (∀ attached, (t.readied logger').registry.questions (Lenient.loggerName logger')
          Logger.warningLevel attached =
        (s.readied logger).registry.questions (Lenient.loggerName logger) Logger.warningLevel
          attached) ∨
      ∀ u, u.store = c.store ∨ u.store = c.otherStore → ∀ q, (put cause q).run u = (.ok (), u))
    (hwarned : ∀ u w, c.related u w → u.registry = (s.readied logger).registry →
      w.registry = (t.readied logger').registry →
      c.related (u.warned (Lenient.loggerName logger) message cause)
        (w.warned (Lenient.loggerName logger') message cause)) :
    ∃ r u w, (warn logger message cause).run s = (r, u) ∧
      (warn logger' message cause).run t = (r, w) ∧ c.related u w ∧ c.Fits (fun _ => True) r := by
  have hs := run_warn hg message cause s
  have ht := run_warn hg' message cause t
  rcases exists_run_weighFor h hc hweighed with
    ⟨e, u, w, hu, hw, huw, he⟩ | ⟨attached, attached', u, w, hu, hw, huw, hq⟩
  · rw [hu] at hs
    rw [hw] at ht
    exact ⟨.error e, u, w, hs, ht, huw, he⟩
  · have hregistry := ((isInspection_weighFor _ _).within.of_run hu).onlyLooks.sameLogging
    have hregistry' := ((isInspection_weighFor _ _).within.of_run hw).onlyLooks.sameLogging
    have hissued := hwarned u w huw hregistry.registry_eq hregistry'.registry_eq
    rw [hu] at hs
    rw [hw] at ht
    refine ⟨.ok (), _, _, hs, ht, ?_, trivial⟩
    rw [Session.notified, Session.notified]
    rcases hasked with hsame | hquietly
    · rw [hregistry.registry_eq, hregistry'.registry_eq, hq hsame]
      exact related_answered hc hissued _
    · rw [answered_of_put (hquietly _ (.inl (c.store_eq hissued))),
        answered_of_put (hquietly _ (.inr (c.otherStore_eq hissued)))]
      exact hissued

/-- Recoveries from the failure of a known object concur if the warnings do. -/
theorem concur_recover (ho : c.known o) (hc : c.KnowsRaised cause)
    (hw : ∀ message, Concur c (fun _ => True) (warn logger message cause)
      (warn logger' message cause)) :
    Concur c (fun _ => True) (recover logger o cause) (recover logger' o cause) := by
  rw [recover_eq, recover_eq]
  exact Concur.bind (agrees_identityText ho) fun identity _ =>
    (hw _).bind fun _ _ => (agrees_causeText hc).map fun _ _ => trivial

/-- Asking a known value for its text agrees. -/
theorem agrees_asked (hv : c.KnowsEither value) : Agrees c c.KnowsEither (asked value) := by
  unfold asked
  split
  · exact agrees_pure trivial
  · exact agrees_pure trivial
  · exact agrees_written .text hv

/-- Tolerant conversions of a known value concur if the warnings about ordinary exceptions do. -/
theorem concur_conversionEither (hv : c.KnowsEither value)
    (hw : ∀ message cause, c.KnowsRaised cause → cause.isOrdinary c.store = true →
      Concur c (fun _ => True) (warn logger message cause) (warn logger' message cause)) :
    Concur c c.KnowsEither (conversionEither logger value) (conversionEither logger' value) := by
  cases value with
  | text t => exact agrees_pure trivial
  | object o =>
    change Concur c c.KnowsEither (conversion logger o) (conversion logger' o)
    unfold conversion
    split
    · exact agrees_pure trivial
    · exact Concur.rescue (agrees_written .text hv) fun cause hc ho =>
        (concur_recover hv hc fun message => hw message cause hc ho).map fun _ _ => trivial

/-- The same is true of the plain texts. -/
theorem concur_convert (ho : c.known o)
    (hw : ∀ message cause, c.KnowsRaised cause → cause.isOrdinary c.store = true →
      Concur c (fun _ => True) (warn logger message cause) (warn logger' message cause)) :
    Concur c (fun _ => True) (convert logger o) (convert logger' o) := by
  have heither : c.KnowsEither (.object o) := ho
  exact Concur.plain (concur_conversionEither heither hw)

section

variable {v : Overlap} {capacity : Nat}

/-- Issuing a warning on a known logger agrees across parallel sessions. -/
theorem agrees_warn (hg : v.known logger) (hc : v.KnowsRaised cause) (message : Text) :
    Agrees (.parallel v capacity) (fun _ => True) (warn logger message cause) := by
  have hlogger : Lenient.IsLoggerOrNull logger →
      Agrees (.parallel v capacity) (fun _ => True) (warn logger message cause) := by
    intro hlogger s t hst
    have hregistry : t.registry = s.registry := by rw [hst.2.eq]
    have hreadied : (s.readied logger).IsParallel v (t.readied logger) := by
      rcases hlogger with rfl | ⟨name, rfl⟩
      · refine ⟨hst.2.store_eq, ?_, hst.2.askings_eq⟩
        rw [hst.2.eq]
        rfl
      · exact hst.2
    have hsame : (t.readied logger).registry = (s.readied logger).registry := by
      rw [hreadied.eq]
    have hcapacity : (s.readied logger).capacity = capacity := by
      rw [← hst.1]
      rcases hlogger with rfl | ⟨name, rfl⟩ <;> rfl
    refine exists_run_warn hlogger hlogger hc ⟨hcapacity, hreadied⟩ (.inl (by rw [hsame]))
      (.inl fun attached => by rw [hsame]) fun u w huw _ _ =>
        ⟨huw.1, huw.2.store_eq, ?_, huw.2.askings_eq⟩
    rw [huw.2.eq]
    rfl
  cases logger with
  | null => exact hlogger (.inl rfl)
  | logger name => exact hlogger (.inr ⟨name, rfl⟩)
  | bool | known | cell =>
    refine agrees_store_bind ?_ (agrees_fail _)
    exact congrArg (fun f => fail f) (noAttribute_eq (v := v) hg _)

/-- The tolerant conversion of a known value agrees across parallel sessions. -/
theorem agrees_conversionEither (hg : v.known logger) (hv : v.KnowsEither value) :
    Agrees (.parallel v capacity) v.KnowsEither (conversionEither logger value) :=
  concur_conversionEither hv fun message _ hc _ => agrees_warn hg hc message

/-- So does that for the plain text. -/
theorem agrees_convert (hg : v.known logger) (ho : v.known o) :
    Agrees (.parallel v capacity) (fun _ => True) (convert logger o) :=
  concur_convert ho fun message _ hc _ => agrees_warn hg hc message

end

end Run

namespace Session

variable {v : Overlap} {s t : Session} {α : Type} {P : α → Prop} {x : Run α}

/-- What agrees across parallel sessions comes to the same in them and leaves them parallel. -/
theorem IsParallel.exists_run (h : s.IsParallel v t)
    (hx : Run.Agrees (.parallel v s.capacity) P x) :
    ∃ r u w, x.run s = (r, u) ∧ x.run t = (r, w) ∧ u.capacity = s.capacity ∧ u.IsParallel v w ∧
      (Coupling.parallel v s.capacity).Fits P r := by
  obtain ⟨r, u, w, hs, ht, ⟨hcapacity, hparallel⟩, hr⟩ := hx ⟨rfl, h⟩
  exact ⟨r, u, w, hs, ht, hcapacity, hparallel, hr⟩

end Session

/-- Two attempts convert the same value with the same outcome, and calls of hooks other than
those for listing are the same before and after them. -/
structure Attempt.IsLike (a b : Attempt) : Prop where
  /-- The same value is converted. -/
  value_eq : b.value = a.value
  /-- The same text is given, or the same is raised. -/
  outcome_eq : b.outcome = a.outcome
  /-- The calls before. -/
  before_eq : b.before.askings = a.before.askings
  /-- The calls after. -/
  after_eq : b.after.askings = a.after.askings

namespace Session

variable {v : Overlap} {s t : Session} {logger : Obj} {value : TextOrObj}

/-- Attempts in parallel sessions are alike. -/
theorem IsParallel.isLike_start (h : s.IsParallel v t) (hv : v.KnowsEither value) :
    (Attempt.start value s).IsLike (Attempt.start value t) := by
  obtain ⟨r, u, w, hs, ht, -, hparallel, -⟩ := h.exists_run (Run.agrees_asked hv)
  refine ⟨rfl, ?_, h.askings_eq, ?_⟩
  · rw [Attempt.start, Attempt.start, hs, ht]
  · rw [Attempt.start, Attempt.start, hs, ht]
    exact hparallel.askings_eq

/-- Attempts in parallel sessions settle on the same and leave the sessions parallel. What is
given is known. -/
theorem IsParallel.exists_settled (h : s.IsParallel v t) (hg : v.known logger)
    (hv : v.KnowsEither value) : ∃ r u w, (Attempt.start value s).settled logger = (r, u) ∧
      (Attempt.start value t).settled logger = (r, w) ∧ u.capacity = s.capacity ∧
      u.IsParallel v w ∧ ∀ given, r = .ok given → v.KnowsEither given := by
  obtain ⟨r, u, w, hs, ht, hcapacity, hparallel, hr⟩ :=
    h.exists_run (Run.agrees_conversionEither hg hv)
  rw [Run.run_conversionEither] at hs ht
  refine ⟨r, u, w, hs, ht, hcapacity, hparallel, ?_⟩
  rintro given rfl
  exact hr

/-- Attempts to convert known objects one after the other are alike in parallel sessions. -/
theorem IsParallel.forall₂_isLike_all (h : s.IsParallel v t) (hg : v.known logger)
    {items : List Obj} (hitems : ∀ o ∈ items, v.known o) :
    List.Forall₂ Attempt.IsLike (Attempt.all logger items s) (Attempt.all logger items t) := by
  induction items generalizing s t with
  | nil => exact .nil
  | cons o items ih =>
    have hvalue : v.KnowsEither (.object o) := hitems o List.mem_cons_self
    obtain ⟨r, u, w, hs, ht, -, hparallel, -⟩ := h.exists_settled hg hvalue
    rw [Attempt.all, Attempt.all, hs, ht]
    refine .cons (h.isLike_start hvalue) ?_
    cases r with
    | ok given => exact ih hparallel fun p hp => hitems p (List.mem_cons_of_mem o hp)
    | error e => exact .nil

end Session

end LenientText
