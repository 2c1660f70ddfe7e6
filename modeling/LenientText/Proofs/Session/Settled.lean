import LenientText.Proofs.Session.Running

/-!
# Computations that are settled beforehand

What a computation comes to may follow from the objects and the capacity alone, whatever has
been called before. If it moreover only calls hooks for listing, and these follow from the same,
it can be run in a session without a history, and what it did there is all that it does in any
other. Such computations are put together like others. What goes on after calls for listing is
the one rule behind sequences, rescues and the calls themselves.
-/

namespace LenientText

/-- Whether a hook is called where objects are listed. -/
def Hook.isOfListing : Hook → Bool
  | .items | .listing _ => true
  | _ => false

/-- A session with nothing but the objects and a capacity. -/
def Store.session (s : Store) (capacity : Nat) : Session :=
  { Session.start 0 with store := s, capacity }

namespace Session

/-- A session with nothing but the objects and the capacity of another one. -/
def blank (s : Session) : Session := s.store.session s.capacity

/-- A session after more calls of hooks. -/
def withCalls (s : Session) (made : List Call) : Session := { s with calls := s.calls ++ made }

end Session

namespace Run

variable {α β : Type}

/-- What a computation comes to and which hooks it calls follows from the objects and the
capacity. It calls hooks for listing only, and does nothing else. -/
structure IsSettled (x : Run α) : Prop where
  /-- All follows from the objects and the capacity. -/
  run_eq : ∀ s, x.run s = ((x.run s.blank).1, s.withCalls (x.run s.blank).2.calls)
  /-- Only hooks for listing are called. -/
  isOfListing : ∀ s : Session, ∀ call ∈ (x.run s.blank).2.calls, call.hook.isOfListing = true

/-- No more calls leave a session as it is. -/
theorem withCalls_nil (s : Session) : s.withCalls [] = s := by
  rw [Session.withCalls, List.append_nil]

/-- Calls after others are made together. -/
theorem withCalls_append (s : Session) (made more : List Call) :
    (s.withCalls made).withCalls more = s.withCalls (made ++ more) := by
  rw [Session.withCalls, Session.withCalls, Session.withCalls, List.append_assoc]

/-- What does nothing is settled. -/
theorem isSettled_of_run {x : Run α} {r : Session → Except Raised α}
    (h : ∀ s, x.run s = (r s, s)) (hr : ∀ s : Session, r s.blank = r s) : IsSettled x where
  run_eq s := by
    rw [h, h, hr]
    exact congrArg (Prod.mk _) (withCalls_nil s).symm
  isOfListing s call hcall := by
    rw [h] at hcall
    exact absurd hcall List.not_mem_nil

/-- Giving a value is settled. -/
theorem isSettled_pure (a : α) : IsSettled (pure a : Run α) :=
  isSettled_of_run (r := fun _ => .ok a) (fun _ => rfl) fun _ => rfl

/-- Raising something is settled. -/
theorem isSettled_throw (e : Raised) : IsSettled (throw e : Run α) :=
  isSettled_of_run (r := fun _ => .error e) (fun _ => rfl) fun _ => rfl

/-- Failing is settled. -/
theorem isSettled_fail (f : Fault) : IsSettled (fail f : Run α) := isSettled_throw (.fault f)

/-- Looking at the objects is settled. -/
theorem isSettled_store : IsSettled store :=
  isSettled_of_run (r := fun s => .ok s.store) (fun _ => rfl) fun _ => rfl

/-- What is settled does after calls what it does without them. -/
theorem IsSettled.run_withCalls {x : Run α} (h : IsSettled x) (s : Session) (made : List Call) :
    x.run (s.withCalls made) =
      ((x.run s.blank).1, s.withCalls (made ++ (x.run s.blank).2.calls)) := by
  rw [← withCalls_append]
  exact h.run_eq (s.withCalls made)

/-- What goes on in a settled way after calls for listing is settled, if how it goes on and
which calls these are follows from the objects and the capacity. -/
theorem isSettled_of_run_withCalls {x : Run β} (y : Session → Run β) (made : Session → List Call)
    (hx : ∀ s, x.run s = (y s).run (s.withCalls (made s))) (hy : ∀ s, IsSettled (y s))
    (hblank : ∀ s : Session, y s.blank = y s ∧ made s.blank = made s)
    (hmade : ∀ s, ∀ call ∈ made s, call.hook.isOfListing = true) : IsSettled x where
  run_eq s := by
    have hother := hx s.blank
    rw [(hblank s).1, (hblank s).2] at hother
    rw [hx, hother, (hy s).run_withCalls, (hy s).run_withCalls]
    rfl
  isOfListing s call hcall := by
    rw [hx, (hblank s).1, (hblank s).2, (hy s).run_withCalls] at hcall
    change call ∈ [] ++ (made s ++ ((y s).run s.blank).2.calls) at hcall
    rw [List.nil_append] at hcall
    rcases List.mem_append.mp hcall with hcall | hcall
    · exact hmade s call hcall
    · exact (hy s).isOfListing s call hcall

/-- How a sequence goes on after what its first part came to. -/
def goOn (f : α → Run β) : Except Raised α → Run β
  | .ok a => f a
  | .error e => throw e

/-- How a rescue goes on after what it is about came to. -/
def goOnRescued (k : KnownClass) (handler : Raised → Run α) (s : Store) : Except Raised α → Run α
  | .ok a => pure a
  | .error e => if e.isA s k then handler e else throw e

/-- A sequence is settled if its parts are. -/
theorem IsSettled.bind {x : Run α} {f : α → Run β} (hx : IsSettled x)
    (hf : ∀ a, IsSettled (f a)) : IsSettled (x >>= f) := by
  refine isSettled_of_run_withCalls (fun s => goOn f (x.run s.blank).1)
    (fun s => (x.run s.blank).2.calls) (fun s => ?_) (fun s => ?_) (fun _ => ⟨rfl, rfl⟩)
    hx.isOfListing
  · have hs := hx.run_eq s
    rcases hrun : x.run s.blank with ⟨e | a, t⟩ <;> rw [hrun] at hs
    · exact run_bind_of_error hs
    · exact run_bind_of_ok hs
  · cases (x.run s.blank).1 with
    | ok a => exact hf a
    | error e => exact isSettled_throw e

/-- A rescue is settled if its parts are. -/
theorem IsSettled.rescue {x : Run α} {k : KnownClass} {handler : Raised → Run α}
    (hx : IsSettled x) (hh : ∀ r, IsSettled (handler r)) : IsSettled (rescue x k handler) := by
  refine isSettled_of_run_withCalls (fun s => goOnRescued k handler s.store (x.run s.blank).1)
    (fun s => (x.run s.blank).2.calls) (fun s => ?_) (fun s => ?_) (fun _ => ⟨rfl, rfl⟩)
    hx.isOfListing
  · have hs := hx.run_eq s
    rcases hrun : x.run s.blank with ⟨e | a, t⟩ <;> rw [hrun] at hs
    · dsimp only [goOnRescued]
      split
      · next hk => exact run_rescue_of_isA hs hk
      · next hk => exact run_rescue_of_not_isA hs (eq_false_of_ne_true hk)
    · exact run_rescue_of_ok hs
  · cases (x.run s.blank).1 with
    | ok a => exact isSettled_pure a
    | error e =>
      dsimp only [goOnRescued]
      split
      · exact hh e
      · exact isSettled_throw e

/-- Doing something after a call for listing is settled, whatever that tells. -/
theorem IsSettled.noteCall_bind (owner : Obj) {hook : Hook} (hhook : hook.isOfListing = true)
    {x : Run α} (hx : IsSettled x) : IsSettled (noteCall owner hook >>= fun _ => x) := by
  refine isSettled_of_run_withCalls (fun _ => x) (fun _ => [⟨owner, hook⟩]) (fun _ => rfl)
    (fun _ => hx) (fun _ => ⟨rfl, rfl⟩) fun _ call hcall => ?_
  rw [List.mem_singleton.mp hcall]
  exact hhook

end Run

end LenientText
