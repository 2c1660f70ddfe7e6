import LenientText.Proofs.Lenient.Attempt
import LenientText.Proofs.Lenient.Filling

/-!
# The course of a whole call

An account of a call records the attempt to convert the template, the listing of the
arguments, the attempts to convert the items and the filling of the template. A series says
how attempts follow one another: each begins in the session in which the one before it has
been settled, and one that settles on something raised is the last. In the same way a call
is an attempt, a listing, a series and a filling. Every call has an account, and what the
call gives or raises is what its last step comes to.
-/

namespace LenientText

namespace Attempt

/-- The attempts to convert objects one after the other, up to the first that settles on
something raised. -/
def all (logger : Obj) : List Obj → Session → List Attempt
  | [], _ => []
  | o :: items, s =>
    let a := start (.object o) s
    a :: match a.settled logger with
      | (.ok _, t) => all logger items t
      | (.error _, _) => []

end Attempt

/-- The filling of a converted template. -/
structure Filling where
  /-- The converted template. -/
  template : TextOrObj
  /-- The texts of the arguments. -/
  texts : List Text
  /-- The session in which the template is filled. -/
  before : Session

namespace Filling

/-- The filled template, or what was raised. -/
def outcome (f : Filling) : Except Raised Text := ((Run.filled f.template f.texts).run f.before).1

/-- The session when the template was filled or something was raised. -/
def after (f : Filling) : Session := ((Run.filled f.template f.texts).run f.before).2

/-- Filling issues no warning. -/
theorem warnings_after (f : Filling) : f.after.warnings = f.before.warnings :=
  ((Run.isInspection_filled f.template f.texts).within f.before).onlyLooks.sameLogging.warnings_eq

end Filling

/-- What was recorded of a call. -/
structure Account where
  /-- The attempt to convert the template. -/
  template : Attempt
  /-- The listing of the arguments, if it came to that. -/
  listing? : Option Listing
  /-- The attempts to convert the items, in order. -/
  items : List Attempt
  /-- The filling of the template, if it came to that. -/
  filling? : Option Filling

namespace Account

/-- All attempts, in order. -/
def attempts (h : Account) : List Attempt := h.template :: h.items

/-- The account of a call once the template has been converted and the items are there. -/
def withItems (logger : Obj) (first : Attempt) (listing? : Option Listing) (given : TextOrObj)
    (items : List Obj) (s : Session) : Account :=
  ⟨first, listing?, Attempt.all logger items s,
    match (items.mapM (Run.convert logger)).run s with
    | (.ok texts, t) => some ⟨given, texts, t⟩
    | (.error _, _) => none⟩

/-- The account of a call with the arguments that an object stands for. -/
def of (logger : Obj) (template : TextOrObj) (arguments : Obj) (s : Session) : Account :=
  let first := Attempt.start template s
  match first.settled logger with
  | (.error _, _) => ⟨first, none, [], none⟩
  | (.ok given, t) =>
    if arguments = .null then ⟨first, none, [], some ⟨given, [Lenient.nullArguments], t⟩⟩
    else
      let listing := Listing.start arguments t
      match listing.settled with
      | .error _ => ⟨first, some listing, [], none⟩
      | .ok items => withItems logger first (some listing) given items listing.after

/-- The account of a call with given arguments. -/
def ofItems (logger : Obj) (template : TextOrObj) (items : List Obj) (s : Session) : Account :=
  let first := Attempt.start template s
  match first.settled logger with
  | (.error _, _) => ⟨first, none, [], none⟩
  | (.ok given, t) => withItems logger first none given items t

end Account

/-- Attempts follow one another, from one session to another, with what they come to. -/
inductive Series (logger : Obj) : Session → List Obj → List Attempt →
    Except Raised (List Text) → Session → Prop where
  /-- There is nothing to convert. -/
  | done (s : Session) : Series logger s [] [] (.ok []) s
  /-- An object is converted, and the others after it. -/
  | step {o : Obj} {items : List Obj} {as : List Attempt} {s t u : Session}
      {given : TextOrObj} {r : Except Raised (List Text)}
      (settled : (Attempt.start (.object o) s).settled logger = (.ok given, t))
      (rest : Series logger t items as r u) :
      Series logger s (o :: items) (Attempt.start (.object o) s :: as)
        (r.map (t.store.plain given :: ·)) u
  /-- A conversion raises something, and no other object is converted. -/
  | stop {o : Obj} {items : List Obj} {s t : Session} {e : Raised}
      (settled : (Attempt.start (.object o) s).settled logger = (.error e, t)) :
      Series logger s (o :: items) [Attempt.start (.object o) s] (.error e) t

namespace Series

variable {logger : Obj} {s t u : Session} {items : List Obj} {as : List Attempt}
  {a : Attempt} {e : Raised} {r : Except Raised (List Text)}

/-- Converting objects one after the other is a series of attempts. -/
theorem mapM_convert (logger : Obj) (items : List Obj) (s : Session) :
    Series logger s items (Attempt.all logger items s)
      ((items.mapM (Run.convert logger)).run s).1
      ((items.mapM (Run.convert logger)).run s).2 := by
  induction items generalizing s with
  | nil => exact .done s
  | cons o items ih =>
    have hrun := Run.run_convert logger o s
    rw [List.mapM_cons, Attempt.all]
    rcases hsettled : (Attempt.start (.object o) s).settled logger with ⟨e | given, t⟩
    · rw [hsettled] at hrun
      rw [Run.run_bind_of_error hrun]
      exact .stop hsettled
    · rw [hsettled] at hrun
      have hrest : ((items.mapM (Run.convert logger) >>= fun texts =>
          pure (t.store.plain given :: texts)).run t) =
          (((items.mapM (Run.convert logger)).run t).1.map (t.store.plain given :: ·),
            ((items.mapM (Run.convert logger)).run t).2) := by
        rw [← map_eq_pure_bind, Run.run_map]
      rw [Run.run_bind_of_ok hrun, hrest]
      exact .step hsettled (ih t)

/-- Every attempt is what came of converting some object in some session. -/
theorem exists_eq_start (h : Series logger s items as r t) (ha : a ∈ as) :
    ∃ value u, a = Attempt.start value u := by
  induction h with
  | done => cases ha
  | step _ _ ih =>
    rcases List.mem_cons.mp ha with rfl | ha
    · exact ⟨_, _, rfl⟩
    · exact ih ha
  | stop => exact ⟨_, _, List.mem_singleton.mp ha⟩

/-- The objects that were converted come first in the list, in order, and if nothing was
raised they are all. -/
theorem values_isPrefix (h : Series logger s items as r t) :
    as.map Attempt.value <+: items.map .object ∧
      (r.isOk = true → as.map Attempt.value = items.map .object) := by
  induction h with
  | done => exact ⟨List.prefix_rfl, fun _ => rfl⟩
  | @step o items as s t u given r _ _ ih =>
    refine ⟨?_, fun hr => ?_⟩
    · exact List.cons_prefix_cons.mpr ⟨rfl, ih.1⟩
    · have hok : r.isOk = true := by
        cases r with
        | error e => exact hr
        | ok texts => rfl
      rw [List.map_cons, ih.2 hok]
      rfl
  | stop => exact ⟨List.cons_prefix_cons.mpr ⟨rfl, List.nil_prefix⟩, fun hr => by cases hr⟩

/-- An attempt that settles on something raised is the last one, and the series comes to
that. -/
theorem eq_of_settled_error (h : Series logger s items as r t) (ha : a ∈ as)
    (hsettled : a.settled logger = (.error e, u)) :
    r = .error e ∧ t = u ∧ as.getLast? = some a := by
  induction h with
  | done => cases ha
  | @step o items as s t w given r hstart hrest ih =>
    rcases List.mem_cons.mp ha with rfl | ha
    · rw [hstart] at hsettled
      cases hsettled
    -- The last of the later attempts is the last of all.
    · obtain ⟨rfl, rfl, hlast⟩ := ih ha
      refine ⟨rfl, rfl, ?_⟩
      rw [List.getLast?_cons, hlast, Option.getD_some]
  | stop hstart =>
    obtain rfl := List.mem_singleton.mp ha
    rw [hstart] at hsettled
    cases hsettled
    exact ⟨rfl, rfl, rfl⟩

/-- If a series comes to something raised, an attempt settled on it. -/
theorem exists_settled_error (h : Series logger s items as (.error e) t) :
    ∃ a ∈ as, a.settled logger = (.error e, t) := by
  generalize hr : (.error e : Except Raised (List Text)) = r at h
  induction h with
  | done => cases hr
  | @step o items as s t w given r _ _ ih =>
    cases r with
    | ok texts => cases hr
    | error e' =>
      cases hr
      obtain ⟨a, ha, hsettled⟩ := ih rfl
      exact ⟨a, List.mem_cons_of_mem _ ha, hsettled⟩
  | stop hstart =>
    cases hr
    exact ⟨_, List.mem_singleton_self _, hstart⟩

/-- The warning of the first attempt comes before those of the others. -/
theorem filterMap_warning?_cons (logger : Obj) (a : Attempt) (as : List Attempt) :
    (a :: as).filterMap (·.warning? logger) =
      (a.warning? logger).toList ++ as.filterMap (·.warning? logger) := by
  cases hw : a.warning? logger with
  | none => rw [List.filterMap_cons_none hw, Option.toList_none, List.nil_append]
  | some w => rw [List.filterMap_cons_some hw, Option.toList_some, List.singleton_append]

/-- The warnings issued in a series are those of its failures, in order. -/
theorem warnings_eq (hl : Lenient.IsLoggerOrNull logger) (h : Series logger s items as r t) :
    t.warnings = s.warnings ++ as.filterMap (·.warning? logger) := by
  induction h with
  | done => exact (List.append_nil _).symm
  | @step o items as s t u given r hstart _ ih =>
    have ht := Attempt.warnings_settled_start hl (.object o) s
    rw [hstart] at ht
    rw [ih, ht, List.append_assoc, filterMap_warning?_cons]
  | @stop o items s t e hstart =>
    have ht := Attempt.warnings_settled_start hl (.object o) s
    rw [hstart] at ht
    rw [ht, filterMap_warning?_cons, List.filterMap_nil, List.append_nil]

end Series

/-- The steps of a call, with the account of it and what it comes to. -/
inductive Course (logger : Obj) (template : TextOrObj) : Obj → Session → Account →
    Except Raised Text → Session → Prop where
  /-- The conversion of the template raises something. -/
  | stopAtTemplate {arguments : Obj} {s t : Session} {e : Raised}
      (settled : (Attempt.start template s).settled logger = (.error e, t)) :
      Course logger template arguments s ⟨Attempt.start template s, none, [], none⟩ (.error e) t
  /-- The template is converted, and is filled without arguments. -/
  | withoutArguments {s t : Session} {given : TextOrObj} {f : Filling}
      (settled : (Attempt.start template s).settled logger = (.ok given, t))
      (filling : f = ⟨given, [Lenient.nullArguments], t⟩) :
      Course logger template .null s ⟨Attempt.start template s, none, [], some f⟩ f.outcome f.after
  /-- The template is converted, and listing the arguments raises something. -/
  | stopAtListing {arguments : Obj} {s t : Session} {given : TextOrObj} {e : Raised}
      (present : arguments ≠ .null)
      (settled : (Attempt.start template s).settled logger = (.ok given, t))
      (listed : (Listing.start arguments t).settled = .error e) :
      Course logger template arguments s
        ⟨Attempt.start template s, some (Listing.start arguments t), [], none⟩ (.error e)
        (Listing.start arguments t).after
  /-- The template is converted, the arguments are listed, and the conversion of an item raises
  something. -/
  | stopAtItem {arguments : Obj} {s t u : Session} {given : TextOrObj} {items : List Obj}
      {as : List Attempt} {e : Raised} (present : arguments ≠ .null)
      (settled : (Attempt.start template s).settled logger = (.ok given, t))
      (listed : (Listing.start arguments t).settled = .ok items)
      (series : Series logger (Listing.start arguments t).after items as (.error e) u) :
      Course logger template arguments s
        ⟨Attempt.start template s, some (Listing.start arguments t), as, none⟩ (.error e) u
  /-- The template is converted, the arguments are listed, the items are converted, and the
  template is filled with their texts. -/
  | withItems {arguments : Obj} {s t u : Session} {given : TextOrObj} {items : List Obj}
      {as : List Attempt} {texts : List Text} {f : Filling} (present : arguments ≠ .null)
      (settled : (Attempt.start template s).settled logger = (.ok given, t))
      (listed : (Listing.start arguments t).settled = .ok items)
      (series : Series logger (Listing.start arguments t).after items as (.ok texts) u)
      (filling : f = ⟨given, texts, u⟩) :
      Course logger template arguments s
        ⟨Attempt.start template s, some (Listing.start arguments t), as, some f⟩ f.outcome f.after

namespace Course

variable {logger arguments : Obj} {template : TextOrObj} {s t u : Session} {h : Account}
  {a : Attempt} {l : Listing} {f : Filling} {e : Raised} {r : Except Raised Text}

/-- Every call takes the course that its account tells. -/
theorem formatArguments (logger : Obj) (template : TextOrObj) (arguments : Obj) (s : Session) :
    Course logger template arguments s (Account.of logger template arguments s)
      ((Run.formatArguments logger template arguments).run s).1
      ((Run.formatArguments logger template arguments).run s).2 := by
  unfold Account.of
  dsimp only
  rcases hsettled : (Attempt.start template s).settled logger with ⟨e | given, t⟩ <;> dsimp only
  · have hrun := (Run.run_conversionEither logger template s).trans hsettled
    rw [Run.formatArguments, Run.run_bind_of_error hrun]
    exact .stopAtTemplate hsettled
  · have hrun := (Run.run_conversionEither logger template s).trans hsettled
    by_cases hnull : arguments = .null
    · subst hnull
      rw [Run.formatArguments, Run.run_bind_of_ok hrun, if_pos rfl]
      exact .withoutArguments hsettled rfl
    · rw [Run.formatArguments_of_ne_null logger template hnull, Run.run_bind_of_ok hrun,
        if_neg hnull]
      cases hlisted : (Listing.start arguments t).settled with
      | error e =>
        have hlist := Run.run_argumentsOf arguments t
        rw [hlisted] at hlist
        rw [Run.run_bind_of_error hlist]
        exact .stopAtListing hnull hsettled hlisted
      | ok items =>
        have hlist := Run.run_argumentsOf arguments t
        have hseries := Series.mapM_convert logger items (Listing.start arguments t).after
        rw [hlisted] at hlist
        rw [Run.run_bind_of_ok hlist]
        dsimp only [Account.withItems]
        rcases hitems : (items.mapM (Run.convert logger)).run (Listing.start arguments t).after
          with ⟨e | texts, u⟩
        · rw [hitems] at hseries
          rw [Run.run_bind_of_error hitems]
          exact .stopAtItem hnull hsettled hlisted hseries
        · rw [hitems] at hseries
          rw [Run.run_bind_of_ok hitems]
          exact .withItems hnull hsettled hlisted hseries rfl

/-- Every attempt is what came of converting some value in some session. -/
theorem exists_eq_start (hc : Course logger template arguments s h r t) (ha : a ∈ h.attempts) :
    ∃ value u, a = Attempt.start value u := by
  cases hc with
  | stopAtTemplate | withoutArguments | stopAtListing =>
    exact ⟨_, _, List.mem_singleton.mp ha⟩
  | stopAtItem _ _ _ series | withItems _ _ _ series =>
    rcases List.mem_cons.mp ha with rfl | ha
    · exact ⟨_, _, rfl⟩
    · exact series.exists_eq_start ha

/-- An attempt that settles on something raised is the last step, and the call comes to
that. -/
theorem eq_of_settled_error (hc : Course logger template arguments s h r t)
    (ha : a ∈ h.attempts) (hsettled : a.settled logger = (.error e, u)) :
    r = .error e ∧ t = u ∧ h.attempts.getLast? = some a ∧ h.filling? = none := by
  cases hc with
  | stopAtTemplate hfirst =>
    obtain rfl := List.mem_singleton.mp ha
    rw [hfirst] at hsettled
    cases hsettled
    exact ⟨rfl, rfl, rfl, rfl⟩
  | withoutArguments hfirst | stopAtListing _ hfirst =>
    obtain rfl := List.mem_singleton.mp ha
    rw [hfirst] at hsettled
    cases hsettled
  | stopAtItem _ hfirst _ series =>
    rcases List.mem_cons.mp ha with rfl | ha
    · rw [hfirst] at hsettled
      cases hsettled
    · obtain ⟨he, rfl, hlast⟩ := series.eq_of_settled_error ha hsettled
      cases he
      refine ⟨rfl, rfl, ?_, rfl⟩
      rw [Account.attempts, List.getLast?_cons, hlast, Option.getD_some]
  | withItems _ hfirst _ series =>
    rcases List.mem_cons.mp ha with rfl | ha
    · rw [hfirst] at hsettled
      cases hsettled
    · obtain ⟨he, -, -⟩ := series.eq_of_settled_error ha hsettled
      cases he

/-- If the template settles on something raised, the arguments are not listed. -/
theorem listing?_eq_none (hc : Course logger template arguments s h r t)
    (hsettled : h.template.settled logger = (.error e, u)) : h.listing? = none := by
  cases hc with
  | stopAtTemplate | withoutArguments => rfl
  | stopAtListing _ hfirst | stopAtItem _ hfirst | withItems _ hfirst =>
    rw [hfirst] at hsettled
    cases hsettled

/-- A listing that settles on something raised is the last step, and the call comes to
that. -/
theorem eq_of_listing_error (hc : Course logger template arguments s h r t)
    (hl : h.listing? = some l) (hsettled : l.settled = .error e) :
    r = .error e ∧ t = l.after ∧ h.items = [] ∧ h.filling? = none := by
  cases hc with
  | stopAtTemplate | withoutArguments => cases hl
  | stopAtListing _ _ hlisted =>
    cases hl
    rw [hlisted] at hsettled
    cases hsettled
    exact ⟨rfl, rfl, rfl, rfl⟩
  | stopAtItem _ _ hlisted | withItems _ _ hlisted =>
    cases hl
    rw [hlisted] at hsettled
    cases hsettled

/-- Filling is the last step, and the call comes to that. -/
theorem eq_of_filling (hc : Course logger template arguments s h r t)
    (hf : h.filling? = some f) : r = f.outcome ∧ t = f.after := by
  cases hc with
  | stopAtTemplate | stopAtListing | stopAtItem => cases hf
  | withoutArguments | withItems =>
    cases hf
    exact ⟨rfl, rfl⟩

/-- A call that gives a text fills the template. -/
theorem isSome_filling? (hc : Course logger template arguments s h r t) (hr : r.isOk = true) :
    h.filling?.isSome = true := by
  cases hc with
  | stopAtTemplate | stopAtListing | stopAtItem => cases hr
  | withoutArguments | withItems => rfl

/-- If a call raises something, an attempt or the listing settled on it, or filling came to
it. -/
theorem exists_settled_error (hc : Course logger template arguments s h (.error e) t) :
    (∃ a ∈ h.attempts, a.settled logger = (.error e, t)) ∨
      (∃ l, h.listing? = some l ∧ l.settled = .error e ∧ t = l.after) ∨
        ∃ f, h.filling? = some f ∧ f.outcome = .error e ∧ t = f.after := by
  generalize hr : (.error e : Except Raised Text) = r at hc
  cases hc with
  | stopAtTemplate hfirst =>
    cases hr
    exact .inl ⟨_, List.mem_singleton_self _, hfirst⟩
  | withoutArguments => exact .inr (.inr ⟨_, rfl, rfl, rfl⟩)
  | stopAtListing _ _ hlisted =>
    cases hr
    exact .inr (.inl ⟨_, rfl, hlisted, rfl⟩)
  | stopAtItem _ _ _ series =>
    cases hr
    obtain ⟨a, ha, hsettled⟩ := series.exists_settled_error
    exact .inl ⟨a, List.mem_cons_of_mem _ ha, hsettled⟩
  | withItems => exact .inr (.inr ⟨_, rfl, rfl, rfl⟩)

/-- Listing issues no warning. -/
theorem warnings_after_listing (hc : Course logger template arguments s h r t)
    (hl : h.listing? = some l) : l.after.warnings = l.before.warnings := by
  cases hc with
  | stopAtTemplate | withoutArguments => cases hl
  | stopAtListing | stopAtItem | withItems =>
    cases hl
    exact Listing.warnings_after_start _ _

/-- The values converted are the listed items, in order, up to the first whose conversion
raises something. If it comes to filling the template, they are all. -/
theorem values_isPrefix (hc : Course logger template arguments s h r t) {items : List Obj}
    (hl : h.listing? = some l) (hsettled : l.settled = .ok items) :
    h.items.map Attempt.value <+: items.map .object ∧
      (h.filling?.isSome = true → h.items.map Attempt.value = items.map .object) := by
  cases hc with
  | stopAtTemplate | withoutArguments => cases hl
  | stopAtListing _ _ hlisted =>
    cases hl
    rw [hlisted] at hsettled
    cases hsettled
  | stopAtItem _ _ hlisted series =>
    cases hl
    rw [hlisted] at hsettled
    cases hsettled
    exact ⟨series.values_isPrefix.1, fun hf => by cases hf⟩
  | withItems _ _ hlisted series =>
    cases hl
    rw [hlisted] at hsettled
    cases hsettled
    exact ⟨series.values_isPrefix.1, fun _ => series.values_isPrefix.2 rfl⟩

/-- The warnings issued in a call are those of its failures, in order. -/
theorem warnings_eq (hg : Lenient.IsLoggerOrNull logger)
    (hc : Course logger template arguments s h r t) :
    t.warnings = s.warnings ++ h.attempts.filterMap (·.warning? logger) := by
  have hfirst := Attempt.warnings_settled_start hg template s
  cases hc with
  | stopAtTemplate hsettled =>
    rw [hsettled] at hfirst
    rw [hfirst, Account.attempts, Series.filterMap_warning?_cons, List.filterMap_nil,
      List.append_nil]
  | withoutArguments hsettled hfilling =>
    subst hfilling
    rw [hsettled] at hfirst
    rw [Filling.warnings_after, hfirst, Account.attempts, Series.filterMap_warning?_cons,
      List.filterMap_nil, List.append_nil]
  | stopAtListing _ hsettled =>
    rw [hsettled] at hfirst
    rw [Listing.warnings_after_start, hfirst, Account.attempts, Series.filterMap_warning?_cons,
      List.filterMap_nil, List.append_nil]
  | stopAtItem _ hsettled _ series =>
    rw [hsettled] at hfirst
    rw [series.warnings_eq hg, Listing.warnings_after_start, hfirst, Account.attempts,
      Series.filterMap_warning?_cons, List.append_assoc]
  | withItems _ hsettled _ series hfilling =>
    subst hfilling
    rw [hsettled] at hfirst
    rw [Filling.warnings_after, series.warnings_eq hg, Listing.warnings_after_start, hfirst,
      Account.attempts, Series.filterMap_warning?_cons, List.append_assoc]

end Course

end LenientText
