import LenientText.Object.Method
import LenientText.Proofs.Session.Frame

/-!
# Computations that inspect objects

An inspection is put together from looking at the session, noting calls of hooks, throwing
what a hook throws, and failing with a fault of inspecting; nothing else stands in it. Two
properties follow by induction on how it is put together: it only calls hooks, and what
it raises was thrown by a hook or is such a fault. So a function of this library has both
as soon as it is shown to be an inspection.
-/

namespace LenientText

/-- The faults of looking at objects: a form that cannot be written, an attribute that is
not there, an operation that does not apply, an answer that is no size. -/
def Fault.isOfInspection : Fault → Bool
  | .unwritable | .notText _ _ | .tooDeep | .noAttribute _ _ | .noClassAttribute _ _
  | .mismatch _ | .negativeSize _ | .vastSize _ => true
  | _ => false

/-- What is raised by looking at objects: anything that a hook throws, and the faults of
looking. -/
def Raised.isOfInspection : Raised → Bool
  | .thrown _ => true
  | .fault f => f.isOfInspection

namespace Run

variable {α β : Type}

/-- A computation that inspects objects, by how it is put together. -/
inductive IsInspection : {α : Type} → Run α → Prop
  /-- Giving a value. -/
  | pure {α : Type} (a : α) : IsInspection (pure a : Run α)
  /-- Looking at the session. -/
  | get : IsInspection (get : Run Session)
  /-- Noting the call of a hook. -/
  | noteCall (owner : Obj) (hook : Hook) : IsInspection (noteCall owner hook)
  /-- Throwing what a hook throws. -/
  | thrown {α : Type} (e : Obj) : IsInspection (throw (.thrown e) : Run α)
  /-- Failing with a fault of looking. -/
  | fail {α : Type} {f : Fault} (h : f.isOfInspection = true) : IsInspection (Run.fail f : Run α)
  /-- One inspection after the other. -/
  | bind {α β : Type} {x : Run α} {f : α → Run β} (hx : IsInspection x)
    (hf : ∀ a, IsInspection (f a)) : IsInspection (x >>= f)
  /-- An inspection in place of one that raises something. -/
  | rescue {α : Type} {x : Run α} {k : KnownClass} {handler : Raised → Run α}
    (hx : IsInspection x) (hh : ∀ r, IsInspection (handler r)) :
    IsInspection (Run.rescue x k handler)
  /-- An inspection whose outcome is left aside. -/
  | attempt {α : Type} {x : Run α} (hx : IsInspection x) : IsInspection (Run.attempt x)

namespace IsInspection

/-- Looking at the objects is an inspection. -/
theorem store : IsInspection Run.store := .bind .get fun s => .pure s.store

/-- A value that is computed further is inspected in the same way. -/
theorem map {x : Run α} (hx : IsInspection x) (f : α → β) : IsInspection (f <$> x) := by
  rw [map_eq_pure_bind]
  exact hx.bind fun a => .pure (f a)

/-- Reading off a plain text is an inspection. -/
theorem plain {x : Run TextOrObj} (hx : IsInspection x) : IsInspection (Run.plain x) :=
  hx.bind fun r => store.bind fun s => .pure (s.plain r)

/-- Inspections made for the members of a list are one. -/
theorem mapM {xs : List α} {f : α → Run β} (hf : ∀ a, IsInspection (f a)) :
    IsInspection (xs.mapM f) := by
  induction xs with
  | nil => exact .pure []
  | cons a xs ih =>
    rw [List.mapM_cons]
    exact (hf a).bind fun b => ih.bind fun bs => .pure (b :: bs)

/-- The same is true where the values are not kept. -/
theorem forM {xs : List α} {f : α → Run PUnit} (hf : ∀ a, IsInspection (f a)) :
    IsInspection (xs.forM f) := by
  induction xs with
  | nil => exact .pure PUnit.unit
  | cons a xs ih => exact (hf a).bind fun _ => ih

/-- A scripted hook is called, whatever it does. -/
theorem call (owner : Obj) (hook : Hook) (script : Script) :
    IsInspection (Run.call owner hook script) := by
  refine (noteCall owner hook).bind fun calls => ?_
  split
  · exact .pure _
  · exact .thrown _

/-- A hook that has to give a text is called, whatever it gives. -/
theorem callForText (asked : Form) (owner : Obj) (hook : Hook) (script : Script) :
    IsInspection (Run.callForText asked owner hook script) := by
  refine (call owner hook script).bind fun o => store.bind fun s => ?_
  split
  · exact .pure _
  · exact .fail rfl

/-- An object is asked by a method, whatever its class answers. -/
theorem askAs (hook : Hook) (o : Obj) (m : Method) : IsInspection (Run.askAs hook o m) := by
  refine store.bind fun s => ?_
  split
  · refine (noteCall _ hook).bind fun _ => ?_
    split
    · exact .pure _
    · exact .thrown _
  · exact .pure none

/-- An inspection only calls hooks. -/
theorem within {x : Run α} (h : IsInspection x) : Within Session.OnlyCalls x := by
  induction h with
  | pure a => exact within_pure a
  | get => exact within_get
  | noteCall owner hook => exact within_noteCall owner hook
  | thrown e => exact within_throw (.thrown e)
  | fail => exact within_fail _
  | bind _ _ hx hf => exact hx.bind hf
  | rescue _ _ hx hh => exact hx.rescue hh
  | attempt _ hx => exact hx.attempt

end IsInspection

/-- Whatever a computation raises has a property. -/
def RaisesOnly (P : Raised → Prop) (x : Run α) : Prop :=
  ∀ (s t : Session) (e : Raised), x.run s = (.error e, t) → P e

section

variable {P Q : Raised → Prop}

/-- What is raised has any weaker property too. -/
theorem RaisesOnly.mono {x : Run α} (h : RaisesOnly P x) (hPQ : ∀ e, P e → Q e) : RaisesOnly Q x :=
  fun s t e hx => hPQ e (h s t e hx)

/-- A computation that always gives a value raises nothing. -/
theorem raisesOnly_of_ok {x : Run α} (h : ∀ s, ∃ a t, x.run s = (.ok a, t)) :
    RaisesOnly P x := by
  intro s t e hx
  obtain ⟨a, u, ha⟩ := h s
  rw [ha] at hx
  cases hx

/-- Giving a value raises nothing. -/
theorem raisesOnly_pure (a : α) : RaisesOnly P (pure a : Run α) :=
  raisesOnly_of_ok fun s => ⟨a, s, rfl⟩

/-- Throwing raises what is thrown. -/
theorem raisesOnly_throw {e : Raised} (h : P e) : RaisesOnly P (throw e : Run α) := by
  intro s t e' hx
  cases hx
  exact h

/-- A sequence raises what its parts raise. -/
theorem RaisesOnly.bind {x : Run α} {f : α → Run β} (hx : RaisesOnly P x)
    (hf : ∀ a, RaisesOnly P (f a)) : RaisesOnly P (x >>= f) := by
  intro s t e h
  rcases run_bind_eq_error.mp h with h | ⟨a, u, -, h⟩
  · exact hx s t e h
  · exact hf a u t e h

/-- A sequence that ends in some other way than by raising what its first part may raise has
that part behind it. -/
theorem RaisesOnly.exists_run_eq_ok {x : Run α} {f : α → Run β} {s t : Session}
    {r : Except Raised β} (hx : RaisesOnly P x) (hr : ∀ e, r = .error e → ¬P e)
    (h : (x >>= f).run s = (r, t)) : ∃ a u, x.run s = (.ok a, u) ∧ (f a).run u = (r, t) := by
  rcases hrun : x.run s with ⟨e | a, u⟩
  · rw [run_bind_of_error hrun] at h
    cases h
    exact absurd (hx s t e hrun) (hr e rfl)
  · rw [run_bind_of_ok hrun] at h
    exact ⟨a, u, rfl, h⟩

/-- A rescue raises what its parts raise. -/
theorem RaisesOnly.rescue {x : Run α} {k : KnownClass} {handler : Raised → Run α}
    (hx : RaisesOnly P x) (hh : ∀ r, RaisesOnly P (handler r)) :
    RaisesOnly P (rescue x k handler) := by
  intro s t e h
  rcases hrun : x.run s with ⟨r | a, u⟩
  · by_cases hk : r.isA u.store k = true
    · rw [run_rescue_of_isA hrun hk] at h
      exact hh r u t e h
    · rw [run_rescue_of_not_isA hrun (eq_false_of_ne_true hk)] at h
      cases h
      exact hx s t e hrun
  · rw [run_rescue_of_ok hrun] at h
    cases h

end

/-- What an inspection raises was thrown by a hook or is a fault of looking. -/
theorem IsInspection.raisesOnly {x : Run α} (h : IsInspection x) :
    RaisesOnly (fun e => e.isOfInspection = true) x := by
  induction h with
  | pure a => exact raisesOnly_pure a
  | get => exact raisesOnly_of_ok fun s => ⟨s, s, rfl⟩
  | noteCall owner hook => exact raisesOnly_of_ok fun s => ⟨_, _, rfl⟩
  | thrown e => exact raisesOnly_throw rfl
  | fail h => exact raisesOnly_throw h
  | bind _ _ hx hf => exact hx.bind hf
  | rescue _ _ hx hh => exact hx.rescue hh
  | attempt _ _ => exact raisesOnly_of_ok fun s => ⟨(), _, run_attempt _ s⟩

end Run

end LenientText
