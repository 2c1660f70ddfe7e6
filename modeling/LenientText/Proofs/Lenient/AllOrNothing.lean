import LenientText.Proofs.Lenient.Containment
import LenientText.Proofs.Lenient.Parallel
import LenientText.Proofs.Object.Listing

/-!
# Listing arguments is all or nothing

A call with listed arguments comes to the same as a call that is given the items, if the
arguments yield them all and nothing is raised when they are asked for their size. It comes to
the same as a call that is given the arguments as they are, if an ordinary exception is raised
by either, after however many items. Anything else that is raised leaves the call once the
template has been converted, and no item is converted. The calls compared differ in when the
arguments are listed, so the template is converted in sessions whose stores and calls for
listing differ. This shows nowhere as long as no reference leads out of the store. That the
arguments yield all items is not enough: a list that raises something when it is asked for its
length is not taken for its items.
-/

namespace LenientText

/-- Two calls come to the same, apart from when arguments are listed. -/
structure EndsLike (p q : Except Raised Text × Session) : Prop where
  /-- The same text is given, or the same is raised. -/
  outcome_eq : q.1 = p.1
  /-- The same warnings have been issued. -/
  warnings_eq : q.2.warnings = p.2.warnings
  /-- The loggers are the same. -/
  registry_eq : q.2.registry = p.2.registry
  /-- The same objects have been asked for their identity. -/
  identified_eq : q.2.identified = p.2.identified
  /-- Hooks other than those for listing have been called in the same order. -/
  askings_eq : q.2.askings = p.2.askings

/-- Asking an object for its size raises nothing, if it comes to that. -/
def Store.IsSized (s : Store) (capacity : Nat) (o : Obj) : Prop :=
  s.isListed o = true → s.foretold capacity o = .ok ()

/-- A call on arguments works with all that they yield, or with the arguments themselves, or with
nothing. -/
structure IsAllOrNothing (logger : Obj) (template : TextOrObj) (arguments : Obj) (s : Session) :
    Prop where
  /-- If the arguments yield items, and asking for their size raises nothing, the call comes to
  the same as one that is given these items, with the same conversions. -/
  completed : ∀ yielded, s.store.yielded s.capacity arguments = .ok yielded →
    s.store.IsSized s.capacity arguments →
    ∃ items u, (Run.itemsOf arguments).run s = (.ok items, u) ∧ yielded.AreMeantBy u.store items ∧
      EndsLike ((Run.formatArguments logger template arguments).run s)
        ((Run.format logger template items).run u) ∧
      List.Forall₂ Attempt.IsLike (Account.of logger template arguments s).attempts
        (Account.ofItems logger template items u).attempts
  /-- If the arguments do not end regularly in yielding items, or asking for their size raises
  something, and that is an ordinary exception, the call comes to the same as one that is given
  the arguments as they are, with the same conversions. -/
  failed : ∀ e, s.store.listed s.capacity arguments = .error e → e.isOrdinary s.store = true →
    EndsLike ((Run.formatArguments logger template arguments).run s)
      ((Run.format logger template [arguments]).run s) ∧
    List.Forall₂ Attempt.IsLike (Account.of logger template arguments s).attempts
      (Account.ofItems logger template [arguments] s).attempts
  /-- If it is anything else, it leaves the call once the template has been converted, and
  nothing but the template is converted. -/
  interrupted : ∀ e, s.store.listed s.capacity arguments = .error e →
    e.isOrdinary s.store = false →
    EndsLike (((Attempt.start template s).settled logger).1.bind fun _ => .error e,
        ((Attempt.start template s).settled logger).2)
      ((Run.formatArguments logger template arguments).run s) ∧
    (Account.of logger template arguments s).attempts = [Attempt.start template s]

/-- What an object yields is what listing it ends with, if asking for its size raises nothing. -/
theorem Store.listed_of_isSized {s : Store} {capacity : Nat} {o : Obj}
    (h : s.IsSized capacity o) : s.listed capacity o = s.yielded capacity o := by
  unfold listed
  split
  · next hlisted => rw [h hlisted]
  · rfl

/-- Listing an object that ends with items gives references to them. -/
theorem Listing.start_of_listed {o : Obj} {t : Session} {items : Items}
    (h : t.store.listed t.capacity o = .ok items) :
    start o t = ⟨o, t, .ok (items.references t.store),
      { t.afterListing o with store := t.store.extend items.made }⟩ := by
  rw [start, Run.run_itemsOf, h]
  rfl

/-- Listing an object that ends with something raised makes no objects. -/
theorem Listing.start_of_listed_eq_error {o : Obj} {t : Session} {e : Raised}
    (h : t.store.listed t.capacity o = .error e) :
    start o t = ⟨o, t, .error e, t.afterListing o⟩ := by
  rw [start, Run.run_itemsOf, h]
  rfl

namespace Session

variable {v : Overlap} {s t u : Session} {logger : Obj} {template : TextOrObj}

/-- Listing an object calls no other hooks than those for listing. -/
theorem askings_afterListing (s : Session) (o : Obj) : (s.afterListing o).askings = s.askings := by
  have hnone : (s.store.listingCalls s.capacity o).filter (fun call => !call.hook.isOfListing) =
      [] := by
    refine List.filter_eq_nil_iff.mpr fun call hcall => ?_
    rw [Store.isOfListing_of_mem_listingCalls hcall]
    exact Bool.false_ne_true
  rw [askings, afterListing, withCalls, List.filter_append, hnone, List.append_nil, askings]

/-- Runs with the same outcome that leave parallel sessions come to the same. -/
theorem IsParallel.endsLike (h : s.IsParallel v t) (r : Except Raised Text) :
    EndsLike (r, s) (r, t) where
  outcome_eq := rfl
  warnings_eq := by
    dsimp only
    rw [h.eq]
  registry_eq := by
    dsimp only
    rw [h.eq]
  identified_eq := by
    dsimp only
    rw [h.eq]
  askings_eq := h.askings_eq

/-- A call on arguments comes to the same as a call that is given items in a parallel session,
if listing settles on these items wherever the template leaves off. -/
theorem IsParallel.endsLike_formatArguments {arguments : Obj} (h : s.IsParallel v u)
    (w : Overlap) (items : List Obj) (harguments : arguments ≠ .null) (hg : v.known logger)
    (ht : v.KnowsEither template) (hw : ∀ o, w.known o)
    (hlisting : ∀ t t', t.IsParallel v t' → t.capacity = s.capacity →
      (Listing.start arguments t).settled = .ok items ∧
        (Listing.start arguments t).after.IsParallel w t') :
    EndsLike ((Run.formatArguments logger template arguments).run s)
      ((Run.format logger template items).run u) ∧
    List.Forall₂ Attempt.IsLike (Account.of logger template arguments s).attempts
      (Account.ofItems logger template items u).attempts := by
  have hformat : Run.format logger template items = Run.conversionEither logger template >>=
      fun given => items.mapM (Run.convert logger) >>= Run.filled given := rfl
  have hfirst := h.isLike_start ht
  obtain ⟨r, t, t', hs, hu, hcapacity, hparallel, -⟩ := h.exists_settled hg ht
  have hs' := (Run.run_conversionEither logger template s).trans hs
  have hu' := (Run.run_conversionEither logger template u).trans hu
  rw [Run.formatArguments_of_ne_null logger template harguments, hformat, Account.of,
    Account.ofItems, hs, hu]
  cases r with
  | error e =>
    rw [Run.run_bind_of_error hs', Run.run_bind_of_error hu']
    exact ⟨hparallel.endsLike _, .cons hfirst .nil⟩
  | ok given =>
    obtain ⟨hsettled, hafter⟩ := hlisting t t' hparallel hcapacity
    have hlist := Run.run_argumentsOf arguments t
    rw [hsettled] at hlist
    have hgiven : w.KnowsEither given := by
      cases given with
      | text t => trivial
      | object o => exact hw o
    have hfill : Run.Agrees (.parallel w (Listing.start arguments t).after.capacity)
        (fun _ => True) (items.mapM (Run.convert logger) >>= Run.filled given) := by
      refine (Run.agrees_mapM (P := fun _ => True) fun o _ => ?_).bind fun texts _ => ?_
      · exact Run.agrees_convert (hw logger) (hw o)
      · exact Run.agrees_filled hgiven texts
    obtain ⟨r, p, q, hp, hq, -, hend, -⟩ := hafter.exists_run hfill
    rw [Run.run_bind_of_ok hs', Run.run_bind_of_ok hlist, Run.run_bind_of_ok hu', hp, hq]
    dsimp only
    rw [if_neg harguments, hsettled]
    exact ⟨hend.endsLike r, .cons hfirst (hafter.forall₂_isLike_all (hw logger) fun o _ => hw o)⟩

end Session

namespace Run

variable {logger arguments : Obj} {template : TextOrObj} {s : Session} {e : Raised}

/-- A call on arguments that are listed completely comes to the same as a call that is given the
items. -/
theorem formatArguments_of_listed (harguments : arguments ≠ .null) (hclosed : s.store.IsClosed)
    (hg : s.store.Holds logger) (ht : s.store.HoldsEither template) {listed : Items}
    (hlisted : s.store.listed s.capacity arguments = .ok listed) :
    EndsLike ((formatArguments logger template arguments).run s)
      ((format logger template (listed.references s.store)).run
        { s.afterListing arguments with store := s.store.extend listed.made }) ∧
    List.Forall₂ Attempt.IsLike (Account.of logger template arguments s).attempts
      (Account.ofItems logger template (listed.references s.store)
        { s.afterListing arguments with store := s.store.extend listed.made }).attempts := by
  -- The template is converted next to the new objects, to which nothing in the store refers.
  have hcontinued := s.store.isContinuedBy_extend listed.made
  have hstart : s.IsParallel (.ofContinued hclosed hcontinued)
      { s.afterListing arguments with store := s.store.extend listed.made } :=
    ⟨rfl, rfl, s.askings_afterListing arguments⟩
  have htemplate : (Overlap.ofContinued hclosed hcontinued).KnowsEither template := by
    cases template with
    | text t => trivial
    | object o => exact ht
  refine hstart.endsLike_formatArguments (.whole (s.store.extend listed.made)) _ harguments hg
    htemplate (fun _ => trivial) fun t t' hparallel hcapacity => ?_
  have hstore : t.store = s.store := hparallel.store_eq
  have hlisting : t.store.listed t.capacity arguments = .ok listed := by
    rw [hstore, hcapacity, hlisted]
  rw [Listing.start_of_listed hlisting, hstore]
  refine ⟨rfl, rfl, hparallel.eq, ?_⟩
  exact hparallel.askings_eq.trans (t.askings_afterListing arguments).symm

/-- A call on arguments that cannot be listed comes to the same as a call that is given them as
they are. -/
theorem formatArguments_of_failed_listing (harguments : arguments ≠ .null)
    (hlisted : s.store.listed s.capacity arguments = .error e)
    (ho : e.isOrdinary s.store = true) :
    EndsLike ((formatArguments logger template arguments).run s)
      ((format logger template [arguments]).run s) ∧
    List.Forall₂ Attempt.IsLike (Account.of logger template arguments s).attempts
      (Account.ofItems logger template [arguments] s).attempts := by
  have htemplate : (Overlap.whole s.store).KnowsEither template := by cases template <;> trivial
  refine s.isParallel_self.endsLike_formatArguments (.whole s.store) [arguments] harguments trivial
    htemplate (fun _ => trivial) fun t t' hparallel hcapacity => ?_
  have hstore : t.store = s.store := hparallel.store_eq
  have hlisting : t.store.listed t.capacity arguments = .error e := by
    rw [hstore, hcapacity, hlisted]
  have hordinary : e.isOrdinary (t.afterListing arguments).store = true := by
    rw [Session.afterListing, Session.withCalls, hstore]
    exact ho
  rw [Listing.start_of_listed_eq_error hlisting]
  refine ⟨if_pos hordinary, hstore, hparallel.eq, ?_⟩
  exact hparallel.askings_eq.trans (t.askings_afterListing arguments).symm

/-- A call on arguments whose listing is interrupted converts the template and raises what
listing raises. -/
theorem formatArguments_of_interrupted_listing (harguments : arguments ≠ .null)
    (hlisted : s.store.listed s.capacity arguments = .error e)
    (ho : e.isOrdinary s.store = false) :
    EndsLike (((Attempt.start template s).settled logger).1.bind fun _ => .error e,
        ((Attempt.start template s).settled logger).2)
      ((formatArguments logger template arguments).run s) ∧
    (Account.of logger template arguments s).attempts = [Attempt.start template s] := by
  have htemplate : (Overlap.whole s.store).KnowsEither template := by cases template <;> trivial
  have hlogger : (Overlap.whole s.store).known logger := trivial
  obtain ⟨r, t, t', hsettled, -, hcapacity, hparallel, -⟩ :=
    s.isParallel_self.exists_settled hlogger htemplate
  have hrun := (run_conversionEither logger template s).trans hsettled
  rw [formatArguments_of_ne_null logger template harguments, Account.of, hsettled]
  cases r with
  | error e' =>
    rw [run_bind_of_error hrun]
    exact ⟨⟨rfl, rfl, rfl, rfl, rfl⟩, rfl⟩
  | ok given =>
    have hstore : t.store = s.store := hparallel.store_eq
    have hlisting : t.store.listed t.capacity arguments = .error e := by
      rw [hstore, hcapacity, hlisted]
    have hordinary : ¬e.isOrdinary (t.afterListing arguments).store = true := by
      rw [Session.afterListing, Session.withCalls, hstore]
      exact ne_true_of_eq_false ho
    have hinterrupted : (Listing.start arguments t).settled = .error e := by
      rw [Listing.start_of_listed_eq_error hlisting]
      exact if_neg hordinary
    have hlist := run_argumentsOf arguments t
    rw [hinterrupted, Listing.start_of_listed_eq_error hlisting] at hlist
    rw [run_bind_of_ok hrun, run_bind_of_error hlist]
    dsimp only
    rw [if_neg harguments, hinterrupted]
    exact ⟨⟨rfl, rfl, rfl, rfl, t.askings_afterListing arguments⟩, rfl⟩

end Run

/-- A session with a text, with an object that yields the text twice and then raises an ordinary
exception, with one that yields it once and then ends the process, and with a list of the text
that raises the exception when it is asked for its length. -/
def brokenSession : Session :=
  { Session.start 0 with
    store := ⟨#[
      ⟨.known .text, .text [0x61, 0x62]⟩,
      ⟨.known .runtimeError, .exception [] .none⟩,
      ⟨.known .keyboardInterrupt, .exception [] .none⟩,
      ⟨.known .type, .cls { plainClass (.ofString "Broken") [.known .object] with
        items? := some ⟨[.cell 0, .cell 0], some (.cell 1)⟩ }⟩,
      ⟨.cell 3, .bare⟩,
      ⟨.known .type, .cls { plainClass (.ofString "Stopped") [.known .object] with
        items? := some ⟨[.cell 0], some (.cell 2)⟩ }⟩,
      ⟨.cell 5, .bare⟩,
      ⟨.known .type, .cls { plainClass (.ofString "Unmeasured") [.known .list, .known .object] with
        methods := [(.length, .throws (.cell 1))] }⟩,
      ⟨.cell 7, .list [.cell 0]⟩]⟩ }

end LenientText
