import LenientText.Proofs.Guarded.Arguments
import LenientText.Proofs.Lenient.Attempt
import LenientText.Proofs.Lenient.Filling

/-!
# Operations that make a text, in stages

The operations that make a text from texts check what they are given in stages. Every
argument is held against its hint, in the order of the parameters. Then the texts that must
not be absent are missed, in the same order. Then comes the condition on the other arguments,
and only what is left depends on sizes. Each stage either goes through, or ends the call in
its own way, and what ends a call in one of them tells nothing of sizes. That the check of
arguments against hints is sound is an assumption; what it does with an object of a class of
its own is left open, and so is what such a class answers when a condition is looked at.
-/

namespace LenientText

/-- What was raised tells that something is too large. -/
def Raised.isAboutSize : Raised → Bool
  | .fault (.oversize _) | .fault (.shortage _) | .fault .tooManyItems => true
  | _ => false

/-- Looking at objects tells nothing of sizes. -/
theorem Raised.isAboutSize_of_isOfInspection {e : Raised} (h : e.isOfInspection = true) :
    e.isAboutSize = false := by
  cases e with
  | thrown o => rfl
  | fault f =>
    cases f with
    | oversize length => cases h
    | shortage s => cases h
    | tooManyItems => cases h
    | _ => rfl

namespace Run

/-- What an inspection raises tells nothing of sizes. -/
theorem IsInspection.raisesOnly_isAboutSize {α : Type} {x : Run α} (h : IsInspection x) :
    RaisesOnly (fun e => e.isAboutSize = false) x :=
  h.raisesOnly.mono fun _ => Raised.isAboutSize_of_isOfInspection

section

variable {α : Type} {f : α → Run PUnit} {earlier later : List α} {a : α} {s t u : Session}
  {e : Raised}

/-- The first member of a list for which something is raised decides, whatever the later ones
are. -/
theorem run_forM_append_of_error (h : (earlier.forM f).run s = (.ok (), t))
    (ha : (f a).run t = (.error e, u)) :
    ((earlier ++ a :: later).forM f).run s = (.error e, u) := by
  induction earlier generalizing s with
  | nil =>
    cases h
    exact run_bind_of_error ha
  | cons b earlier ih =>
    obtain ⟨_, v, hb, hrest⟩ := run_bind_eq_ok.mp h
    exact (run_bind_of_ok hb).trans (ih hrest)

/-- What is raised for the members of a list is raised for one of them. -/
theorem RaisesOnly.forM {P : Raised → Prop} (hf : ∀ a, RaisesOnly P (f a)) (xs : List α) :
    RaisesOnly P (xs.forM f) := by
  induction xs with
  | nil => exact raisesOnly_pure PUnit.unit
  | cons a xs ih => exact (hf a).bind fun _ => ih

/-- What is done for the members of a list stays within a relation if it does so for each. -/
theorem Within.forM {R : Session → Session → Prop} [IsPreorder Session R]
    (hf : ∀ a, Within R (f a)) (xs : List α) : Within R (xs.forM f) := by
  induction xs with
  | nil => exact within_pure PUnit.unit
  | cons a xs ih => exact (hf a).bind fun _ => ih

end

end Run

namespace Guarded

open Run

/-- A call of an operation that makes a text from texts. -/
inductive TextCall where
  /-- Completing a text by padding before it. -/
  | padStart (text minLength padding : Obj)
  /-- Completing a text by padding behind it. -/
  | padEnd (text minLength padding : Obj)
  /-- Repeating a text. -/
  | repetition (text count : Obj)
  /-- Finding the start that two texts have in common. -/
  | commonStart (first second : Obj)
  /-- Finding the end that two texts have in common. -/
  | commonEnd (first second : Obj)

/-- A condition on an argument. -/
structure Condition where
  /-- Finds out whether the condition holds. -/
  isMet : Run Bool
  /-- The template of the message where it does not. -/
  template : Text
  /-- The argument, which the message shows. -/
  argument : Obj

/-- Holds arguments against their hints, one after the other. -/
def demandAll (check : Checker) (ps : List (Hint × Obj)) : Run Unit :=
  ps.forM fun p => check.argument p.1 p.2

/-- Misses the first of some labelled texts that is absent. -/
def demandAllPresent (rs : List (String × Obj)) : Run Unit :=
  rs.forM fun r => demandPresent r.2 r.1

/-- Rejects the argument of a condition that does not hold. -/
def Condition.demand (d : Condition) : Run Unit := do
  Run.require (← d.isMet) (.text d.template) [d.argument]

/-- Rejects an argument if there is a condition on it that does not hold. -/
def demandMet : Option Condition → Run Unit
  | none => return ()
  | some d => d.demand

/-- Whether padding has the length one. -/
def isSingle (padding : Obj) : Run Bool := (fun n => n == 1) <$> lengthOf padding

/-- Whether a count is at least zero. What it answers to that has to be a truth value. -/
def isNotNegative (check : Checker) (count : Obj) : Run Bool := do
  let answer ← ordered count .atLeast (0 ≤ ·) fun name => .order .atLeast name (.ofString "int")
  check.argument .boolean answer
  truthOf answer

/-- Arguments are let through by a check, one after the other. -/
def Admits (check : Checker) (ps : List (Hint × Obj)) (s t : Session) : Prop :=
  (demandAll check ps).run s = (.ok (), t)

namespace TextCall

/-- What a call does. -/
def run (check : Checker) : TextCall → Run TextOrObj
  | padStart text minLength padding => Guarded.padStart check text minLength padding
  | padEnd text minLength padding => Guarded.padEnd check text minLength padding
  | repetition text count => Guarded.repetition check text count
  | commonStart first second => .text <$> Guarded.commonStart check first second
  | commonEnd first second => .text <$> Guarded.commonEnd check first second

/-- The arguments with their hints, in the order of the parameters. -/
def parameters : TextCall → List (Hint × Obj)
  | padStart text minLength padding | padEnd text minLength padding =>
    [(.textOrNull, text), (.integer, minLength), (.text, padding)]
  | repetition text count => [(.textOrNull, text), (.integer, count)]
  | commonStart first second | commonEnd first second =>
    [(.textOrNull, first), (.textOrNull, second)]

/-- No hint of a parameter asks for more than a class. -/
theorem isPlain_of_mem_parameters (c : TextCall) : ∀ p ∈ c.parameters, p.1.isPlain = true := by
  have hall : (c.parameters.all fun p => p.1.isPlain) = true := by cases c <;> rfl
  exact List.all_eq_true.mp hall

/-- The texts that must not be absent with their labels, in the order of the parameters. -/
def required : TextCall → List (String × Obj)
  | padStart text _ _ | padEnd text _ _ | repetition text _ => [("String", text)]
  | commonStart first second | commonEnd first second =>
    [("First string", first), ("Second string", second)]

/-- No text is absent that must not be. -/
def IsComplete (c : TextCall) : Prop := ∀ r ∈ c.required, r.2 ≠ .null

/-- The condition on the other arguments, if there is one: padding has the length one, and a
count is not negative. -/
def condition? (check : Checker) : TextCall → Option Condition
  | padStart _ _ padding | padEnd _ _ padding => some ⟨isSingle padding, paddingTemplate, padding⟩
  | repetition _ count => some ⟨isNotNegative check count, countTemplate, count⟩
  | commonStart _ _ | commonEnd _ _ => none

/-- The condition holds, if there is one. -/
def IsFit (check : Checker) (c : TextCall) (s : Session) : Prop :=
  ∀ d, c.condition? check = some d → ∃ t, d.isMet.run s = (.ok true, t)

/-- A call goes through its stages, and does the rest after them. -/
theorem exists_run_eq (check : Checker) (c : TextCall) : ∃ rest : Run TextOrObj,
    c.run check = demandAll check c.parameters >>= fun _ => demandAllPresent c.required >>=
      fun _ => demandMet (c.condition? check) >>= fun _ => rest := by
  have hpad : ∀ complete fault text minLength padding, ∃ rest : Run TextOrObj,
      pad check complete fault text minLength padding =
        demandPadding check text minLength padding >>= fun _ => rest :=
    fun _ _ _ _ _ => ⟨_, rfl⟩
  have hcopies : ∀ text count, ∃ rest : Run TextOrObj, Guarded.repetition check text count =
      check.argument .textOrNull text >>= fun _ => check.argument .integer count >>= fun _ =>
        demandPresent text "String" >>= fun _ =>
          ordered count .atLeast (0 ≤ ·) (fun name => .order .atLeast name (.ofString "int")) >>=
            fun answer => check.argument .boolean answer >>= fun _ => truthOf answer >>=
              fun b => Run.require b (.text countTemplate) [count] >>= fun _ => rest :=
    fun _ _ => ⟨_, rfl⟩
  have htexts : ∀ first second, ∃ rest : Run (Text × Text), demandTexts check first second =
      check.argument .textOrNull first >>= fun _ => check.argument .textOrNull second >>=
        fun _ => demandPresent first "First string" >>= fun _ =>
          demandPresent second "Second string" >>= fun _ => rest :=
    fun _ _ => ⟨_, rfl⟩
  cases c with
  | padStart text minLength padding =>
    obtain ⟨rest, h⟩ := hpad Text.joined Pretence.behind text minLength padding
    refine ⟨rest, ?_⟩
    simp only [run, Guarded.padStart, h, demandPadding, demandAll, demandAllPresent, List.forM,
      parameters, required, condition?, demandMet, Condition.demand, isSingle, bind_assoc,
      pure_bind, map_eq_pure_bind]
  | padEnd text minLength padding =>
    obtain ⟨rest, h⟩ := hpad (fun capacity filler t => Text.joined capacity t filler)
      Pretence.before text minLength padding
    refine ⟨rest, ?_⟩
    simp only [run, Guarded.padEnd, h, demandPadding, demandAll, demandAllPresent, List.forM,
      parameters, required, condition?, demandMet, Condition.demand, isSingle, bind_assoc,
      pure_bind, map_eq_pure_bind]
  | repetition text count =>
    obtain ⟨rest, h⟩ := hcopies text count
    refine ⟨rest, ?_⟩
    simp only [run, h, demandAll, demandAllPresent, List.forM, parameters, required, condition?,
      demandMet, Condition.demand, isNotNegative, bind_assoc, pure_bind]
  | commonStart first second =>
    obtain ⟨rest, h⟩ := htexts first second
    refine ⟨rest >>= fun p => pure (.text (Text.commonStart p.1 p.2)), ?_⟩
    simp only [run, Guarded.commonStart, h, demandAll, demandAllPresent, List.forM, parameters,
      required, condition?, demandMet, bind_assoc, pure_bind, map_eq_pure_bind]
  | commonEnd first second =>
    obtain ⟨rest, h⟩ := htexts first second
    refine ⟨rest >>= fun p => pure (.text (Text.commonEnd p.1 p.2)), ?_⟩
    simp only [run, Guarded.commonEnd, h, demandAll, demandAllPresent, List.forM, parameters,
      required, condition?, demandMet, bind_assoc, pure_bind, map_eq_pure_bind]

end TextCall

section Stages

variable {check : Checker} {ps : List (Hint × Obj)} {s t : Session} (hcheck : check.IsSound)

include hcheck

/-- Arguments that are let through have been asked, and nothing else has happened. -/
theorem Admits.onlyCalls (h : Admits check ps s t) : Session.OnlyCalls s t := by
  have hwithin : Within Session.OnlyCalls (demandAll check ps) := by
    refine Within.forM (fun p => ?_) ps
    exact hcheck.within_argument p.1 p.2
  exact hwithin.of_run h

/-- Holding an argument against its hint tells nothing of sizes. -/
theorem raisesOnly_argument (h : Hint) (o : Obj) :
    RaisesOnly (fun e => e.isAboutSize = false) (check.argument h o) := by
  refine (hcheck.raisesOnly_argument h o).mono fun e he => ?_
  rcases he with rfl | he
  · rfl
  · exact Raised.isAboutSize_of_isOfInspection he

/-- Neither does holding all of them against theirs. -/
theorem raisesOnly_demandAll (ps : List (Hint × Obj)) :
    RaisesOnly (fun e => e.isAboutSize = false) (demandAll check ps) := by
  refine RaisesOnly.forM (fun p => ?_) ps
  exact raisesOnly_argument hcheck p.1 p.2

/-- Where hints are about classes alone, arguments are let through if all of them are of the kinds
that their hints name. If any is not, and all such arguments are of known classes and can be
shown, the first of them is refused, whatever the others are. -/
theorem run_demandAll (hplain : ∀ p ∈ ps, p.1.isPlain = true)
    (h : ∀ p ∈ ps, p.1.isMetBy s.store p.2 = false → (∃ k, s.store.typeOf p.2 = .known k) ∧
      ∃ r, (written .display p.2).run s = (.ok r, s)) :
    (demandAll check ps).run s = (if ps.all fun p => p.1.isMetBy s.store p.2 then .ok ()
      else .error (.fault .unsuitable), s) := by
  induction ps with
  | nil => rfl
  | cons p ps ih =>
    obtain ⟨hp, hps⟩ := List.forall_mem_cons.mp hplain
    obtain ⟨hshown, hothers⟩ := List.forall_mem_cons.mp h
    rw [List.all_cons]
    cases hmet : p.1.isMetBy s.store p.2 with
    | true =>
      have hmet := hcheck.argument_of_isMetBy (.inl hp) hmet
      exact (run_bind_of_ok hmet).trans (ih hps hothers)
    | false =>
      obtain ⟨⟨k, hk⟩, r, hr⟩ := hshown hmet
      exact run_bind_of_error (hcheck.argument_of_not_isMetBy hk hr hmet)

end Stages

section Presence

variable {rs earlier later : List (String × Obj)} {s t : Session}

/-- No text is missed exactly if none is absent. -/
theorem run_demandAllPresent_eq_ok :
    (demandAllPresent rs).run s = (.ok (), t) ↔ t = s ∧ ∀ r ∈ rs, r.2 ≠ .null := by
  induction rs with
  | nil =>
    constructor
    · intro h
      cases h
      exact ⟨rfl, fun r hr => absurd hr List.not_mem_nil⟩
    · rintro ⟨rfl, -⟩
      rfl
  | cons r rs ih =>
    obtain ⟨label, o⟩ := r
    rw [List.forall_mem_cons]
    by_cases ho : o = .null
    · subst ho
      constructor
      · intro h
        cases h
      · rintro ⟨-, h, -⟩
        exact absurd rfl h
    · have hhead : (demandAllPresent ((label, o) :: rs)).run s = (demandAllPresent rs).run s :=
        run_bind_of_ok (run_requirePresent_of_ne ho _)
      rw [hhead, ih]
      constructor
      · rintro ⟨ht, h⟩
        exact ⟨ht, ho, h⟩
      · rintro ⟨ht, -, h⟩
        exact ⟨ht, h⟩

/-- The first text that is absent is missed by its label. -/
theorem run_demandAllPresent_of_absent (label : String) (h : ∀ r ∈ earlier, r.2 ≠ .null) :
    (demandAllPresent (earlier ++ (label, .null) :: later)).run s =
      (.error (.fault (.missing (.ofString label))), s) :=
  run_forM_append_of_error (run_demandAllPresent_eq_ok.mpr ⟨rfl, h⟩) rfl

/-- Missing a text tells nothing of sizes. -/
theorem raisesOnly_demandAllPresent (rs : List (String × Obj)) :
    RaisesOnly (fun e => e.isAboutSize = false) (demandAllPresent rs) := by
  refine RaisesOnly.forM (fun r => ?_) rs
  change RaisesOnly _ (Run.requirePresent r.2 (.text (.ofString r.1)))
  unfold Run.requirePresent
  split
  · exact raisesOnly_throw rfl
  · exact raisesOnly_pure ()

end Presence

section Met

variable {template : Text} {o : Obj} {d : Condition} {s t u : Session}

/-- What a call ends with where a condition does not hold, by what the conversion of the argument
came to: the fault with the message, or what was raised while the message was made. -/
def rejection (template : Text) : Except Raised TextOrObj × Session → Raised
  | (.ok x, t) => .fault (.rejected (Template.fill template [t.store.plain x]))
  | (.error e, _) => e

/-- A condition that does not hold ends with the conversion of the argument for the message. -/
theorem run_require_false (template : Text) (o : Obj) (s : Session) :
    (Run.require false (.text template) [o]).run s =
      (.error (rejection template ((Attempt.start (.object o) s).settled .null)),
        ((Attempt.start (.object o) s).settled .null).2) := by
  have hrequire : Run.require false (.text template) [o] =
      convert .null o >>= fun x => filled (.text template) [x] >>= fun m =>
        fail (.rejected m) := by
    simp only [Run.require, Bool.false_eq_true, if_false, format, conversionEither, List.mapM_cons,
      List.mapM_nil, pure_bind, bind_assoc]
  have hconvert := run_convert .null o s
  rw [hrequire]
  rcases hsettled : (Attempt.start (.object o) s).settled .null with ⟨e | x, t⟩
  · rw [hsettled] at hconvert
    exact run_bind_of_error hconvert
  · have hcuts : t.store.CutsPlainly (.text template) := trivial
    have hfilled : (filled (.text template) [t.store.plain x]).run t =
        (.ok (Template.fill template [t.store.plain x]), t) := run_filled_of_cutsPlainly hcuts _
    rw [hsettled] at hconvert
    exact (run_bind_of_ok hconvert).trans (run_bind_of_ok hfilled)

/-- Padding that is a text has the length of that text. -/
theorem run_isSingle_of_isText {x : Text} (h : s.store.IsText o x) :
    (isSingle o).run s = (.ok (x.length == 1), s) := by
  rw [isSingle, run_map, run_lengthOf_of_isText h]
  rfl

/-- A count that is an integer is compared as that integer. -/
theorem run_isNotNegative_of_isInteger {check : Checker} (hcheck : check.IsSound) {n : Int}
    (h : s.store.IsInteger o n) : (isNotNegative check o).run s = (.ok (decide (0 ≤ n)), s) := by
  rw [isNotNegative, run_bind_of_ok (run_ordered_of_isInteger h _ _ _),
    run_bind_of_ok (hcheck.run_boolean _ s), run_truthOf_bool]

/-- A condition tells nothing of sizes. -/
theorem raisesOnly_require (b : Bool) (template : Text) (o : Obj) :
    RaisesOnly (fun e => e.isAboutSize = false) (Run.require b (.text template) [o]) := by
  have hconvert : RaisesOnly (fun e => e.isAboutSize = false) (convert .null o) :=
    (raisesOnly_convert .null o).mono fun _ => Raised.isAboutSize_of_isOfInspection
  have hformat : RaisesOnly (fun e => e.isAboutSize = false)
      (format .null (.text template) [o]) := by
    simp only [format, conversionEither, pure_bind, List.mapM_cons, List.mapM_nil, bind_assoc]
    exact hconvert.bind fun x => (isInspection_filled _ _).raisesOnly_isAboutSize
  cases b with
  | true => exact raisesOnly_pure ()
  | false => exact hformat.bind fun m => raisesOnly_throw rfl

/-- An argument for which a condition does not hold is rejected. -/
theorem Condition.run_demand_of_false (h : d.isMet.run s = (.ok false, t)) :
    d.demand.run s = (.error (rejection d.template ((Attempt.start (.object d.argument) t).settled
      .null)), ((Attempt.start (.object d.argument) t).settled .null).2) :=
  (run_bind_of_ok h).trans (run_require_false _ _ _)

/-- A condition holds if nothing is raised. -/
theorem Condition.exists_run_isMet (h : d.demand.run s = (.ok (), t)) :
    ∃ u, d.isMet.run s = (.ok true, u) := by
  obtain ⟨b, u, hmet, hrequire⟩ := run_bind_eq_ok.mp h
  cases b with
  | true => exact ⟨u, hmet⟩
  | false =>
    rw [run_require_false] at hrequire
    cases hrequire

/-- The condition of a call tells nothing of sizes. -/
theorem raisesOnly_demandMet {check : Checker} (hcheck : check.IsSound) (c : TextCall) :
    RaisesOnly (fun e => e.isAboutSize = false) (demandMet (c.condition? check)) := by
  have hsingle : ∀ padding, RaisesOnly (fun e => e.isAboutSize = false) (isSingle padding) :=
    fun padding => ((isInspection_lengthOf padding).map _).raisesOnly_isAboutSize
  have hcount : ∀ count,
      RaisesOnly (fun e => e.isAboutSize = false) (isNotNegative check count) :=
    fun count => (isInspection_ordered count _ _ _).raisesOnly_isAboutSize.bind fun answer =>
      (raisesOnly_argument hcheck _ answer).bind fun _ =>
        (isInspection_truthOf answer).raisesOnly_isAboutSize
  cases c with
  | padStart text minLength padding | padEnd text minLength padding =>
    exact (hsingle padding).bind fun b => raisesOnly_require b _ _
  | repetition text count => exact (hcount count).bind fun b => raisesOnly_require b _ _
  | commonStart first second => exact raisesOnly_pure ()
  | commonEnd first second => exact raisesOnly_pure ()

end Met

namespace TextCall

variable {check : Checker} {c : TextCall} {s t u : Session}

/-- What the stage of the arguments raises ends the call. -/
theorem run_of_demandAll_error {e : Raised}
    (h : (demandAll check c.parameters).run s = (.error e, t)) :
    (c.run check).run s = (.error e, t) := by
  obtain ⟨rest, hrun⟩ := c.exists_run_eq check
  rw [hrun]
  exact run_bind_of_error h

/-- The first text that is absent ends a call whose arguments are let through. -/
theorem run_of_absent {earlier later : List (String × Obj)} {label : String}
    (h : Admits check c.parameters s t) (hc : c.required = earlier ++ (label, .null) :: later)
    (hearlier : ∀ r ∈ earlier, r.2 ≠ .null) :
    (c.run check).run s = (.error (.fault (.missing (.ofString label))), t) := by
  obtain ⟨rest, hrun⟩ := c.exists_run_eq check
  rw [hrun, run_bind_of_ok h, hc]
  exact run_bind_of_error (run_demandAllPresent_of_absent label hearlier)

/-- What the condition raises ends a call whose texts are there. -/
theorem run_of_demandMet_error {d : Condition} {e : Raised} (h : Admits check c.parameters s t)
    (hc : c.IsComplete) (hd : c.condition? check = some d)
    (hdemand : d.demand.run t = (.error e, u)) : (c.run check).run s = (.error e, u) := by
  obtain ⟨rest, hrun⟩ := c.exists_run_eq check
  rw [hrun, run_bind_of_ok h, run_bind_of_ok (run_demandAllPresent_eq_ok.mpr ⟨rfl, hc⟩), hd]
  exact run_bind_of_error hdemand

/-- A call that ends with a value, or tells that something is too large, went through all
stages before that. -/
theorem exists_admits_of_run (hcheck : check.IsSound) {r : Except Raised TextOrObj}
    (h : (c.run check).run s = (r, t)) (hr : ∀ e, r = .error e → e.isAboutSize = true) :
    ∃ u, Admits check c.parameters s u ∧ c.IsComplete ∧ c.IsFit check u := by
  have hlarge : ∀ e, r = .error e → ¬e.isAboutSize = false := by
    intro e he hfalse
    rw [hr e he] at hfalse
    cases hfalse
  obtain ⟨rest, hrun⟩ := c.exists_run_eq check
  rw [hrun] at h
  obtain ⟨_, u, hadmits, h⟩ := (raisesOnly_demandAll hcheck _).exists_run_eq_ok hlarge h
  obtain ⟨_, v, hrequired, h⟩ := (raisesOnly_demandAllPresent _).exists_run_eq_ok hlarge h
  obtain ⟨_, w, hmet, -⟩ := (raisesOnly_demandMet hcheck c).exists_run_eq_ok hlarge h
  obtain ⟨rfl, hcomplete⟩ := run_demandAllPresent_eq_ok.mp hrequired
  refine ⟨v, hadmits, hcomplete, fun d hd => ?_⟩
  rw [hd] at hmet
  exact d.exists_run_isMet hmet

end TextCall

end Guarded

end LenientText
