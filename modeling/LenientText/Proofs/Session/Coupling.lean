import LenientText.Proofs.Object.Overlap
import LenientText.Proofs.Session.Running

/-!
# Runs in two sessions side by side

A coupling says which pairs of sessions correspond, whose stores have known objects in common.
Hooks that are scripted have been called equally often on both sides. Two
computations concur across a coupling if the one comes to the same on the one side as the other
one does on the other side, with sessions that correspond again and nothing unknown in the
result. A computation agrees if it concurs with itself. Sequences and rescues of computations
that concur do so too.
-/

namespace LenientText

/-- Pairs of sessions that correspond. -/
structure Coupling extends Overlap where
  /-- Two sessions correspond. -/
  related : Session → Session → Prop
  /-- The one store stays the same. -/
  store_eq : ∀ {s t}, related s t → s.store = store
  /-- The other store stays the same. -/
  otherStore_eq : ∀ {s t}, related s t → t.store = otherStore
  /-- A known logger is displayed in the same way. -/
  display_eq : ∀ {s t name}, related s t → known (.logger name) →
    t.registry.display name = s.registry.display name
  /-- Scripted hooks have been called equally often. -/
  count_eq : ∀ {s t hook}, related s t → hook.isScripted = true → ∀ owner,
    t.calls.count ⟨owner, hook⟩ = s.calls.count ⟨owner, hook⟩
  /-- Identities were given in the same order. -/
  identified_eq : ∀ {s t}, related s t → t.identified = s.identified
  /-- Identities begin with the same number. -/
  firstIdentity_eq : ∀ {s t}, related s t → t.firstIdentity = s.firstIdentity
  /-- Sessions correspond after the same call of a hook. -/
  related_call : ∀ {s t}, related s t → ∀ call : Call,
    related { s with calls := s.calls ++ [call] } { t with calls := t.calls ++ [call] }
  /-- Sessions correspond after objects have been asked for their identity. -/
  related_identified : ∀ {s t}, related s t → ∀ identified,
    related { s with identified } { t with identified }

/-- A result has a property, or what was raised is known. -/
def Coupling.Fits (c : Coupling) {α : Type} (P : α → Prop) : Except Raised α → Prop
  | .ok a => P a
  | .error e => c.KnowsRaised e

namespace Run

variable {α β : Type} {c : Coupling} {P : α → Prop} {Q : β → Prop}

/-- Two computations come to the same in any two sessions that correspond. -/
def Concur (c : Coupling) (P : α → Prop) (x y : Run α) : Prop :=
  ∀ ⦃s t⦄, c.related s t →
    ∃ r u v, x.run s = (r, u) ∧ y.run t = (r, v) ∧ c.related u v ∧ c.Fits P r

/-- A computation comes to the same in any two sessions that correspond. -/
def Agrees (c : Coupling) (P : α → Prop) (x : Run α) : Prop := Concur c P x x

/-- Giving a value agrees. -/
theorem agrees_pure {a : α} (h : P a) : Agrees c P (pure a : Run α) :=
  fun s t hst => ⟨.ok a, s, t, rfl, rfl, hst, h⟩

/-- Throwing something known agrees. -/
theorem agrees_throw {e : Raised} (h : c.KnowsRaised e) : Agrees c P (throw e : Run α) :=
  fun s t hst => ⟨.error e, s, t, rfl, rfl, hst, h⟩

/-- Failing agrees. -/
theorem agrees_fail (f : Fault) : Agrees c P (fail f : Run α) := agrees_throw trivial

/-- Sequences concur if their parts do. -/
theorem Concur.bind {x y : Run α} {f g : α → Run β} (hxy : Concur c P x y)
    (hfg : ∀ a, P a → Concur c Q (f a) (g a)) : Concur c Q (x >>= f) (y >>= g) := by
  intro s t hst
  obtain ⟨r, u, v, hs, ht, huv, hr⟩ := hxy hst
  cases r with
  | ok a =>
    obtain ⟨r, u', v', hu, hv, h⟩ := hfg a hr huv
    exact ⟨r, u', v', (run_bind_of_ok hs).trans hu, (run_bind_of_ok ht).trans hv, h⟩
  | error e => exact ⟨.error e, u, v, run_bind_of_error hs, run_bind_of_error ht, huv, hr⟩

/-- A sequence agrees if its parts do. -/
theorem Agrees.bind {x : Run α} {f : α → Run β} (hx : Agrees c P x)
    (hf : ∀ a, P a → Agrees c Q (f a)) : Agrees c Q (x >>= f) := Concur.bind hx hf

/-- Values computed further concur. -/
theorem Concur.map {x y : Run α} {f : α → β} (hxy : Concur c P x y) (hf : ∀ a, P a → Q (f a)) :
    Concur c Q (f <$> x) (f <$> y) := by
  rw [map_eq_pure_bind, map_eq_pure_bind]
  exact hxy.bind fun a ha => agrees_pure (hf a ha)

/-- A value computed further agrees. -/
theorem Agrees.map {x : Run α} {f : α → β} (hx : Agrees c P x) (hf : ∀ a, P a → Q (f a)) :
    Agrees c Q (f <$> x) := Concur.map hx hf

/-- Looking at the sessions agrees if what is done then is the same on both sides. -/
theorem agrees_get_bind {f : Session → Run α}
    (heq : ∀ {s t}, c.related s t → f t = f s)
    (hf : ∀ s, s.store = c.store → Agrees c P (f s)) : Agrees c P (get >>= f) := by
  intro s t hst
  have hs : (get : Run Session).run s = (.ok s, s) := rfl
  have ht : (get : Run Session).run t = (.ok t, t) := rfl
  obtain ⟨r, u, v, hu, hv, h⟩ := hf s (c.store_eq hst) hst
  refine ⟨r, u, v, (run_bind_of_ok hs).trans hu, ?_, h⟩
  rw [run_bind_of_ok ht, heq hst]
  exact hv

/-- Looking at the objects agrees if what is done then is the same on both sides. -/
theorem agrees_store_bind {f : Store → Run α} (heq : f c.otherStore = f c.store)
    (hf : Agrees c P (f c.store)) : Agrees c P (store >>= f) := by
  intro s t hst
  obtain ⟨r, u, v, hu, hv, h⟩ := hf hst
  refine ⟨r, u, v, ?_, ?_, h⟩
  · rw [run_bind_of_ok (run_store s), c.store_eq hst]
    exact hu
  · rw [run_bind_of_ok (run_store t), c.otherStore_eq hst, heq]
    exact hv

/-- Plain texts that are read off concur. -/
theorem Concur.plain {x y : Run TextOrObj} (hxy : Concur c c.KnowsEither x y) :
    Concur c (fun _ => True) (plain x) (plain y) := by
  refine hxy.bind fun r hr => agrees_store_bind ?_ (agrees_pure trivial)
  rw [Overlap.plain_eq hr]

/-- Reading off a plain text agrees. -/
theorem Agrees.plain {x : Run TextOrObj} (hx : Agrees c c.KnowsEither x) :
    Agrees c (fun _ => True) (plain x) := Concur.plain hx

/-- Rescues concur if their parts do. -/
theorem Concur.rescue {x y : Run α} {k : KnownClass} {handler handler' : Raised → Run α}
    (hxy : Concur c P x y) (hh : ∀ e, c.KnowsRaised e → e.isA c.store k = true →
      Concur c P (handler e) (handler' e)) :
    Concur c P (rescue x k handler) (rescue y k handler') := by
  intro s t hst
  obtain ⟨r, u, v, hs, ht, huv, hr⟩ := hxy hst
  cases r with
  | ok a => exact ⟨.ok a, u, v, run_rescue_of_ok hs, run_rescue_of_ok ht, huv, hr⟩
  | error e =>
    have hisA : e.isA v.store k = e.isA u.store k := by
      rw [c.store_eq huv, c.otherStore_eq huv, Overlap.raisedIsA_eq hr]
    by_cases hk : e.isA u.store k = true
    · obtain ⟨r, u', v', hu, hv, h⟩ := hh e hr (c.store_eq huv ▸ hk) huv
      refine ⟨r, u', v', (run_rescue_of_isA hs hk).trans hu, ?_, h⟩
      exact (run_rescue_of_isA ht (hisA.trans hk)).trans hv
    · have hk' := eq_false_of_ne_true hk
      refine ⟨.error e, u, v, run_rescue_of_not_isA hs hk', ?_, huv, hr⟩
      exact run_rescue_of_not_isA ht (hisA.trans hk')

/-- A rescue agrees if its parts do. -/
theorem Agrees.rescue {x : Run α} {k : KnownClass} {handler : Raised → Run α}
    (hx : Agrees c P x) (hh : ∀ e, c.KnowsRaised e → Agrees c P (handler e)) :
    Agrees c P (rescue x k handler) := Concur.rescue hx fun e he _ => hh e he

/-- Attempts concur if what is attempted does. -/
theorem Concur.attempt {x y : Run α} (hxy : Concur c P x y) :
    Concur c (fun _ => True) (attempt x) (attempt y) := by
  intro s t hst
  obtain ⟨r, u, v, hs, ht, huv, -⟩ := hxy hst
  refine ⟨.ok (), u, v, ?_, ?_, huv, trivial⟩
  · rw [run_attempt, hs]
  · rw [run_attempt, ht]

/-- An attempt agrees if what is attempted does. -/
theorem Agrees.attempt {x : Run α} (hx : Agrees c P x) : Agrees c (fun _ => True) (attempt x) :=
  Concur.attempt hx

/-- Noting the call of a scripted hook agrees. -/
theorem agrees_noteCall (owner : Obj) {hook : Hook} (h : hook.isScripted = true) :
    Agrees c (fun _ => True) (noteCall owner hook) := by
  intro s t hst
  refine ⟨.ok (s.calls.count ⟨owner, hook⟩), _, _, rfl, ?_, c.related_call hst _, trivial⟩
  rw [← c.count_eq hst h owner]
  rfl

/-- Calling a scripted hook agrees if what it may give or throw is known. -/
theorem agrees_call {owner : Obj} {hook : Hook} {script : Script} (h : hook.isScripted = true)
    (hscript : ∀ o ∈ script.references, c.known o) :
    Agrees c c.known (call owner hook script) := by
  refine (agrees_noteCall owner h).bind fun calls _ => ?_
  have hknown := hscript _ (script.object_after_mem calls)
  split
  · next o ho =>
    rw [ho] at hknown
    exact agrees_pure hknown
  · next e he =>
    rw [he] at hknown
    exact agrees_throw hknown

/-- Calling a hook that has to give a text agrees in the same way. -/
theorem agrees_callForText (asked : Form) {owner : Obj} {hook : Hook} {script : Script}
    (h : hook.isScripted = true) (hscript : ∀ o ∈ script.references, c.known o) :
    Agrees c c.KnowsEither (callForText asked owner hook script) := by
  refine (agrees_call h hscript).bind fun o ho => agrees_store_bind ?_ ?_
  · rw [Overlap.text?_eq ho, Overlap.typeName_eq ho]
  · split
    · exact agrees_pure ho
    · exact agrees_fail _

/-- Doing something after a call agrees, whatever that tells. How often hooks that are not
scripted were called does not matter. -/
theorem agrees_noteCall_bind (owner : Obj) (hook : Hook) {x : Run α} (hx : Agrees c P x) :
    Agrees c P (noteCall owner hook >>= fun _ => x) :=
  fun _ _ hst => hx (c.related_call hst ⟨owner, hook⟩)

/-- Asking a known object by a method agrees. -/
theorem agrees_askAs (hook : Hook) {o : Obj} (ho : c.known o) (m : Method) :
    Agrees c (fun answer? => ∀ a ∈ answer?, c.known a) (askAs hook o m) := by
  refine agrees_store_bind ?_ ?_
  · rw [Overlap.typeOf_eq ho, Overlap.method?_eq (Overlap.known_typeOf ho)]
  · split
    · next owner behaviour hm =>
      have hknown := Overlap.known_of_method? (Overlap.known_typeOf ho) hm
      refine agrees_noteCall_bind owner hook ?_
      split
      · exact agrees_pure fun a ha => Option.some.inj ha ▸ hknown
      · exact agrees_throw hknown
    · exact agrees_pure fun a ha => nomatch ha

/-- Asking for an identity agrees. -/
theorem agrees_identity (o : Obj) : Agrees c (fun _ => True) (identity o) := by
  intro s t hst
  have hidentified : t.identifiedWith o = s.identifiedWith o := by
    rw [Session.identifiedWith, c.identified_eq hst]
    rfl
  have hidentity : t.identityOf o = s.identityOf o := by
    rw [Session.identityOf, hidentified, c.firstIdentity_eq hst]
    rfl
  refine ⟨_, _, _, run_identity o s, ?_, c.related_identified hst _, trivial⟩
  rw [run_identity, hidentity, hidentified]

/-- Computations made for the members of a list concur if those for each member do. -/
theorem concur_mapM {γ : Type} {xs : List γ} {f g : γ → Run α}
    (hfg : ∀ a ∈ xs, Concur c P (f a) (g a)) :
    Concur c (fun _ => True) (xs.mapM f) (xs.mapM g) := by
  induction xs with
  | nil => exact agrees_pure trivial
  | cons a xs ih =>
    rw [List.mapM_cons, List.mapM_cons]
    have hrest := ih fun b hb => hfg b (List.mem_cons_of_mem a hb)
    exact (hfg a List.mem_cons_self).bind fun b _ => hrest.bind fun bs _ => agrees_pure trivial

/-- The same is true where what they give is left aside. -/
theorem agrees_forM {γ : Type} {xs : List γ} {f : γ → Run PUnit}
    (hf : ∀ a, Agrees c (fun _ => True) (f a)) : Agrees c (fun _ => True) (xs.forM f) := by
  induction xs with
  | nil => exact agrees_pure trivial
  | cons a xs ih => exact (hf a).bind fun _ _ => ih

/-- Computations made for the members of a list agree if each of them does. -/
theorem agrees_mapM {γ : Type} {xs : List γ} {f : γ → Run α}
    (hf : ∀ a ∈ xs, Agrees c P (f a)) : Agrees c (fun _ => True) (xs.mapM f) := concur_mapM hf

end Run

end LenientText
