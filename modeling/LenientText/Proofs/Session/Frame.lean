import LenientText.Proofs.Session.Running
import Mathlib.Order.Defs.Unbundled

/-!
# What computations leave alone

A computation stays within a relation if that holds between every session it is
run in and the session it leaves, whether it gives a value or raises something. For
a relation that composes, a sequence stays within it if its parts do. Three relations
are used, each wider than the one before: calls of hooks are added and nothing else
changes, objects are asked for their identity besides, and nothing that has to do with
logging changes.
-/

namespace LenientText

namespace Session

/-- Hooks are called, and nothing else happens. -/
def OnlyCalls (s t : Session) : Prop := ∃ made, t = { s with calls := s.calls ++ made }

instance : IsPreorder Session OnlyCalls where
  refl s := ⟨[], by rw [List.append_nil]⟩
  trans := by
    rintro s t u ⟨made, rfl⟩ ⟨more, rfl⟩
    exact ⟨made ++ more, by rw [List.append_assoc]⟩

/-- The objects stay the same. -/
theorem OnlyCalls.store_eq {s t : Session} (h : OnlyCalls s t) : t.store = s.store := by
  obtain ⟨made, rfl⟩ := h
  rfl

/-- Hooks are called and identities are asked for, and nothing else happens. -/
def OnlyLooks (s t : Session) : Prop :=
  ∃ made identified, t = { s with calls := s.calls ++ made, identified }

instance : IsPreorder Session OnlyLooks where
  refl s := ⟨[], s.identified, by rw [List.append_nil]⟩
  trans := by
    rintro s t u ⟨made, identified, rfl⟩ ⟨more, identified', rfl⟩
    exact ⟨made ++ more, identified', by rw [List.append_assoc]⟩

/-- Calling hooks is looking. -/
theorem OnlyCalls.onlyLooks {s t : Session} (h : OnlyCalls s t) : OnlyLooks s t := by
  obtain ⟨made, rfl⟩ := h
  exact ⟨made, s.identified, rfl⟩

/-- The objects stay the same when they are looked at. -/
theorem OnlyLooks.store_eq {s t : Session} (h : OnlyLooks s t) : t.store = s.store := by
  obtain ⟨made, identified, rfl⟩ := h
  rfl

/-- Loggers and warnings stay the same. -/
structure SameLogging (s t : Session) : Prop where
  /-- The loggers. -/
  registry_eq : t.registry = s.registry
  /-- The warnings. -/
  warnings_eq : t.warnings = s.warnings

/-- Looking at objects has nothing to do with logging. -/
theorem OnlyLooks.sameLogging {s t : Session} (h : OnlyLooks s t) : SameLogging s t := by
  obtain ⟨made, identified, rfl⟩ := h
  exact ⟨rfl, rfl⟩

end Session

namespace Run

variable {α β : Type} {R S : Session → Session → Prop}

/-- Every run of a computation ends in a session that is related to its start. -/
def Within (R : Session → Session → Prop) (x : Run α) : Prop := ∀ s, R s (x.run s).2

/-- A computation stays within any wider relation. -/
theorem Within.mono {x : Run α} (h : Within R x) (hRS : ∀ {s t}, R s t → S s t) : Within S x :=
  fun s => hRS (h s)

/-- The session that a run leaves is related to its start. -/
theorem Within.of_run {x : Run α} {s t : Session} {r : Except Raised α} (h : Within R x)
    (hx : x.run s = (r, t)) : R s t := by
  have hs := h s
  rw [hx] at hs
  exact hs

/-- Computing a value further has no effect of its own. -/
theorem Within.map {x : Run α} (hx : Within R x) (f : α → β) : Within R (f <$> x) := by
  intro s
  rw [run_map]
  exact hx s

/-- Attempting a computation has no effect but that of the computation. -/
theorem Within.attempt {x : Run α} (hx : Within R x) : Within R (attempt x) := by
  intro s
  rw [run_attempt]
  exact hx s

/-- Reading off a plain text has no effect of its own. -/
theorem Within.plain {x : Run TextOrObj} (hx : Within R x) : Within R (plain x) := by
  intro s
  rw [run_plain]
  exact hx s

section

variable [IsPreorder Session R]

/-- A value is given without any effect. -/
theorem within_pure (a : α) : Within R (pure a : Run α) := fun s => refl s

/-- Raising something has no other effect. -/
theorem within_throw (r : Raised) : Within R (throw r : Run α) := fun s => refl s

/-- Failing has no other effect. -/
theorem within_fail (f : Fault) : Within R (fail f : Run α) := fun s => refl s

/-- Looking at the session has no effect. -/
theorem within_get : Within R (get : Run Session) := fun s => refl s

/-- Looking at the objects has no effect. -/
theorem within_store : Within R store := fun s => refl s

/-- A sequence stays within a relation if its parts do. -/
theorem Within.bind {x : Run α} {f : α → Run β} (hx : Within R x) (hf : ∀ a, Within R (f a)) :
    Within R (x >>= f) := by
  intro s
  rcases h : x.run s with ⟨r | a, t⟩
  · rw [run_bind_of_error h]
    exact hx.of_run h
  · rw [run_bind_of_ok h]
    exact IsTrans.trans _ _ _ (hx.of_run h) (hf a t)

/-- A rescue stays within a relation if the handler does. -/
theorem Within.rescue {x : Run α} {k : KnownClass} {handler : Raised → Run α} (hx : Within R x)
    (hh : ∀ r, Within R (handler r)) : Within R (rescue x k handler) := by
  intro s
  rcases h : x.run s with ⟨r | a, t⟩
  · have hst := hx.of_run h
    by_cases hk : r.isA t.store k = true
    · rw [run_rescue_of_isA h hk]
      exact IsTrans.trans _ _ _ hst (hh r t)
    · rw [run_rescue_of_not_isA h (eq_false_of_ne_true hk)]
      exact hst
  · rw [run_rescue_of_ok h]
    exact hx.of_run h

/-- Computations made for the members of a list stay within a relation if each of
them does. -/
theorem within_mapM {xs : List α} {f : α → Run β} (hf : ∀ a, Within R (f a)) :
    Within R (xs.mapM f) := by
  induction xs with
  | nil => exact within_pure []
  | cons a xs ih =>
    rw [List.mapM_cons]
    exact (hf a).bind fun b => ih.bind fun bs => within_pure (b :: bs)

end

/-- Noting a call adds it to the calls. -/
theorem within_noteCall (owner : Obj) (hook : Hook) :
    Within Session.OnlyCalls (noteCall owner hook) := fun _ => ⟨[⟨owner, hook⟩], rfl⟩

end Run

end LenientText
