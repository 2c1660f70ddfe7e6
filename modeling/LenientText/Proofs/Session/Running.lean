import LenientText.Object.Session

/-!
# How computations run

One equation for each way in which computations are put together. A sequence goes
on in the session that its first part left, or ends there with what was raised. A
rescue keeps the session of the failed part and hands what was raised to the
handler, if its class is one of those rescued from.
-/

namespace LenientText

namespace Session

/-- The objects asked for their identity, once this has been done with one more. -/
def identifiedWith (s : Session) (o : Obj) : List Obj :=
  if s.identified.contains o then s.identified else s.identified ++ [o]

/-- The number that is the identity of an object. -/
def identityOf (s : Session) (o : Obj) : Nat :=
  s.firstIdentity + identityStep * (s.identifiedWith o).idxOf o

/-- The warning that is issued on the logger of a name. -/
def warning (s : Session) (name message : Text) (cause : Raised) : Warning :=
  ⟨(s.registry.logger name).name, message, cause, s.registry.receivers name Logger.warningLevel⟩

/-- The session after a warning on the logger of a name. -/
def warned (s : Session) (name message : Text) (cause : Raised) : Session :=
  { s with warnings := s.warnings ++ [s.warning name message cause] }

end Session

namespace Run

variable {α β : Type}

/-- Looking at the objects changes nothing. -/
theorem run_store (s : Session) : store.run s = (.ok s.store, s) := rfl

/-- Asking for an identity keeps in mind that this was done. -/
theorem run_identity (o : Obj) (s : Session) :
    (identity o).run s = (.ok (s.identityOf o), { s with identified := s.identifiedWith o }) := rfl

/-- A sequence succeeds exactly if both parts do, the second one in the session that
the first one left. -/
theorem run_bind_eq_ok {x : Run α} {f : α → Run β} {s t : Session} {b : β} :
    (x >>= f).run s = (.ok b, t) ↔ ∃ a u, x.run s = (.ok a, u) ∧ (f a).run u = (.ok b, t) := by
  rcases hx : x.run s with ⟨a | a, u⟩
  · rw [run_bind_of_error hx]
    constructor
    · intro h
      cases h
    · rintro ⟨a', u', h, -⟩
      cases h
  · rw [run_bind_of_ok hx]
    constructor
    · intro h
      exact ⟨a, u, rfl, h⟩
    · rintro ⟨a', u', h, hf⟩
      cases h
      exact hf

/-- A value computed further is computed in the same session. -/
theorem run_map (f : α → β) (x : Run α) (s : Session) :
    (f <$> x).run s = ((x.run s).1.map f, (x.run s).2) := by
  rw [map_eq_pure_bind]
  rcases hx : x.run s with ⟨r | a, t⟩
  · rw [run_bind_of_error hx]
    rfl
  · rw [run_bind_of_ok hx]
    rfl

/-- A sequence fails exactly if its first part does, or the second one in the session
that the first one left. -/
theorem run_bind_eq_error {x : Run α} {f : α → Run β} {s t : Session} {r : Raised} :
    (x >>= f).run s = (.error r, t) ↔
      x.run s = (.error r, t) ∨ ∃ a u, x.run s = (.ok a, u) ∧ (f a).run u = (.error r, t) := by
  rcases hx : x.run s with ⟨q | a, u⟩
  · rw [run_bind_of_error hx]
    constructor
    · intro h
      cases h
      exact .inl rfl
    · rintro (h | ⟨a, u, h, -⟩)
      · cases h
        rfl
      · cases h
  · rw [run_bind_of_ok hx]
    constructor
    · intro h
      exact .inr ⟨a, u, rfl, h⟩
    · rintro (h | ⟨a', u', h, hf⟩)
      · cases h
      · cases h
        exact hf

/-- A handler takes over where a computation raises something. -/
theorem run_tryCatch (x : Run α) (handler : Raised → Run α) (s : Session) :
    (tryCatch x handler : Run α).run s = match x.run s with
      | (.ok a, t) => (.ok a, t)
      | (.error r, t) => (handler r).run t := by
  rw [ExceptT.run_tryCatch]
  change StateT.bind x.run _ s = _
  unfold StateT.bind
  change (match x.run s with | (a, t) => _) = _
  rcases x.run s with ⟨r | a, t⟩ <;> rfl

/-- What a computation does stays when it is only attempted. -/
theorem run_attempt (x : Run α) (s : Session) : (attempt x).run s = (.ok (), (x.run s).2) := by
  rw [attempt, run_tryCatch]
  rcases hx : x.run s with ⟨r | a, t⟩
  · rw [run_bind_of_error hx]
    rfl
  · rw [run_bind_of_ok hx]
    rfl

/-- What succeeds is not rescued. -/
theorem run_rescue_of_ok {x : Run α} {k : KnownClass} {handler : Raised → Run α} {s t : Session}
    {a : α} (h : x.run s = (.ok a, t)) : (rescue x k handler).run s = (.ok a, t) := by
  rw [rescue, run_tryCatch, h]

/-- What is raised goes to the handler if its class is the one rescued from. -/
theorem run_rescue_of_isA {x : Run α} {k : KnownClass} {handler : Raised → Run α}
    {s t : Session} {r : Raised} (h : x.run s = (.error r, t)) (hk : r.isA t.store k = true) :
    (rescue x k handler).run s = (handler r).run t := by
  rw [rescue, run_tryCatch, h]
  change (store >>= fun u => if r.isA u k = true then handler r else throw r).run t = _
  rw [run_bind_of_ok (run_store t), if_pos hk]

/-- What is raised passes through if its class is another one. -/
theorem run_rescue_of_not_isA {x : Run α} {k : KnownClass} {handler : Raised → Run α}
    {s t : Session} {r : Raised} (h : x.run s = (.error r, t)) (hk : r.isA t.store k = false) :
    (rescue x k handler).run s = (.error r, t) := by
  rw [rescue, run_tryCatch, h]
  change (store >>= fun u => if r.isA u k = true then handler r else throw r).run t = _
  rw [run_bind_of_ok (run_store t), hk]
  rfl

/-- The plain text of a result is read off the session that the computation left. -/
theorem run_plain (x : Run TextOrObj) (s : Session) :
    (plain x).run s = ((x.run s).1.map (x.run s).2.store.plain, (x.run s).2) := by
  rcases hx : x.run s with ⟨r | a, t⟩
  · rw [plain, run_bind_of_error hx]
    rfl
  · rw [plain, run_bind_of_ok hx]
    rfl

end Run

end LenientText
