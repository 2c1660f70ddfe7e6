import LenientText.Proofs.Object.Presentation

/-!
# The real class and the claimed one

Naming an object is naming its class, which is the object itself if that is a class. Whether
it is one is not only decided by its real class. If that does not say so, the object is asked
for the class that it claims. An object that claims to be a class is taken for one, and what
it throws instead of a claim is passed on, unless that says that there is no claim. Any other
answer leaves it at the real class, which is then named by what it presents.
-/

namespace LenientText

namespace Store

/-- The class that an object is, or else the one that it is an instance of. -/
def realClass (s : Store) (o : Obj) : Obj := if s.isClass o then o else s.typeOf o

end Store

namespace Session

/-- What an object answers when it is asked next for its class. Without a hook that is the
real one. -/
def claimed (s : Session) (o : Obj) : Behaviour :=
  match s.store.attributeHook? (s.store.typeOf o) .ownClass with
  | some (owner, script) => script.after (s.calls.count ⟨owner, .reading .ownClass⟩)
  | none => .gives (s.store.typeOf o)

/-- Whether the next answer does not say that the object is a class. There may also be none,
but then the exception is the one for a missing attribute. -/
def isCandid (s : Session) (o : Obj) : Bool :=
  match s.claimed o with
  | .gives c => !(s.store.isClass c && s.store.derivesFrom c .type)
  | .throws e => (Raised.thrown e).isA s.store .attributeError

end Session

namespace Run

open Session

variable {s u : Session} {o c e : Obj} {k : KnownClass}

/-- The class that an object claims is what it answers. -/
theorem run_read_ownClass_of_gives (h : s.claimed o = .gives c) :
    (read o .ownClass).run s = (.ok (.object c), s.afterReading o .ownClass) := by
  refine run_read_of_reads ?_
  unfold claimed at h
  unfold Reads
  cases hook : s.store.attributeHook? (s.store.typeOf o) .ownClass with
  | none =>
    rw [hook] at h
    cases h
    rfl
  | some q =>
    rw [hook] at h
    exact ⟨c, h, rfl⟩

/-- What an object throws instead of an answer is thrown by the reading. -/
theorem run_read_ownClass_of_throws (h : s.claimed o = .throws e) :
    (read o .ownClass).run s = (.error (.thrown e), s.afterReading o .ownClass) := by
  unfold claimed at h
  cases hook : s.store.attributeHook? (s.store.typeOf o) .ownClass with
  | none =>
    rw [hook] at h
    cases h
  | some q =>
    rw [hook] at h
    obtain ⟨owner, script⟩ := q
    dsimp only at h
    have hcall : (call owner (.reading .ownClass) script).run s =
        (.error (.thrown e), s.afterReading o .ownClass) := by
      rw [call, run_bind_of_ok (run_noteCall_reading hook), h]
      rfl
    rw [read, run_bind_of_ok (run_store s), hook]
    dsimp only
    rw [run_bind_of_error hcall]

/-- Where the real class of an object does not say that it is an instance, the claim decides. -/
theorem run_isInstance_of_not_isA (hk : s.store.isA o k = false) :
    (isInstance o k).run s = (claims o k).run s := by
  rw [isInstance, run_bind_of_ok (run_store s), if_neg (ne_true_of_eq_false hk)]

/-- Where the real class of an object does not say that it is an instance, the class that it
answers with decides, if that is a class. -/
theorem run_isInstance_of_gives (hk : s.store.isA o k = false) (h : s.claimed o = .gives c) :
    (isInstance o k).run s =
      (.ok (s.store.isClass c && s.store.derivesFrom c k), s.afterReading o .ownClass) := by
  have hclaim : (readOr o .ownClass (.object .null)).run s =
      (.ok (.object c), s.afterReading o .ownClass) :=
    run_rescue_of_ok (run_read_ownClass_of_gives h)
  -- The real class does not descend from the known one, so it is not the one claimed then.
  have hanswer : (s.store.isClass c && c != s.store.typeOf o && s.store.derivesFrom c k) =
      (s.store.isClass c && s.store.derivesFrom c k) := by
    cases hc : s.store.derivesFrom c k with
    | false => rw [Bool.and_false, Bool.and_false]
    | true =>
      have hne : (c != s.store.typeOf o) = true := by
        rw [bne_iff_ne]
        rintro rfl
        rw [Store.isA, hc] at hk
        cases hk
      rw [hne, Bool.and_true]
  rw [run_isInstance_of_not_isA hk, claims, run_bind_of_ok hclaim, run_bind_of_ok (run_store _)]
  change (Except.ok (s.store.isClass c && c != s.store.typeOf o && s.store.derivesFrom c k),
    s.afterReading o .ownClass) = _
  rw [hanswer]

/-- An object that throws the exception for a missing attribute is no instance unless its real
class says so. -/
theorem run_isInstance_of_throws (hk : s.store.isA o k = false) (h : s.claimed o = .throws e)
    (he : (Raised.thrown e).isA s.store .attributeError = true) :
    (isInstance o k).run s = (.ok false, s.afterReading o .ownClass) := by
  have hclaim : (readOr o .ownClass (.object .null)).run s =
      (.ok (.object .null), s.afterReading o .ownClass) :=
    run_rescue_of_isA (run_read_ownClass_of_throws h) he
  rw [run_isInstance_of_not_isA hk, claims, run_bind_of_ok hclaim, run_bind_of_ok (run_store _)]
  rfl

/-- Any other exception is passed on. -/
theorem run_isInstance_of_throws_other (hk : s.store.isA o k = false)
    (h : s.claimed o = .throws e)
    (he : (Raised.thrown e).isA s.store .attributeError = false) :
    (isInstance o k).run s = (.error (.thrown e), s.afterReading o .ownClass) := by
  have hclaim : (readOr o .ownClass (.object .null)).run s =
      (.error (.thrown e), s.afterReading o .ownClass) :=
    run_rescue_of_not_isA (run_read_ownClass_of_throws h) he
  rw [run_isInstance_of_not_isA hk, claims, run_bind_of_error hclaim]

/-- An object that is no class and does not say that it is one has its real class. -/
theorem run_classOf_of_isCandid (ho : s.store.isClass o = false) (h : s.isCandid o = true) :
    (classOf o).run s = (.ok (s.store.typeOf o), s.afterReading o .ownClass) := by
  have hfalse : (isInstance o .type).run s = (.ok false, s.afterReading o .ownClass) := by
    unfold isCandid at h
    cases hclaim : s.claimed o with
    | gives c =>
      rw [hclaim] at h
      dsimp only at h
      rw [Bool.not_eq_true'] at h
      rw [run_isInstance_of_gives ho hclaim, h]
    | throws e =>
      rw [hclaim] at h
      exact run_isInstance_of_throws ho hclaim h
  rw [classOf, run_bind_of_ok hfalse, if_neg Bool.false_ne_true, run_bind_of_ok (run_store _)]
  rfl

/-- The name of an object is the name of what its class is taken to be, if that is a class. -/
theorem run_qualifiedName_of_run_classOf (h : (classOf o).run s = (.ok c, u))
    (hc : u.store.isClass c = true) : (qualifiedName o).run s = (qualifiedName c).run u := by
  rw [qualifiedName, qualifiedName, run_bind_of_ok h, run_bind_of_ok (run_classOf_of_isClass hc)]

/-- An object that is no class and says that it is one is taken for its own class. -/
theorem run_classOf_of_gives (ho : s.store.isClass o = false) (h : s.claimed o = .gives c)
    (hposes : s.isCandid o = false) :
    (classOf o).run s = (.ok o, s.afterReading o .ownClass) := by
  unfold isCandid at hposes
  rw [h] at hposes
  dsimp only at hposes
  rw [Bool.not_eq_false'] at hposes
  have htrue := run_isInstance_of_gives ho h
  rw [hposes] at htrue
  rw [classOf, run_bind_of_ok htrue]
  rfl

/-- Whatever else an object that is no class throws when it is asked for its class is passed
on. -/
theorem run_classOf_of_throws (ho : s.store.isClass o = false) (h : s.claimed o = .throws e)
    (hposes : s.isCandid o = false) :
    (classOf o).run s = (.error (.thrown e), s.afterReading o .ownClass) := by
  unfold isCandid at hposes
  rw [h] at hposes
  rw [classOf, run_bind_of_error (run_isInstance_of_throws_other ho h hposes)]

/-- Without a hook the module of an object is read, or nothing in its place. -/
theorem exists_run_readOr_module
    (hook : s.store.attributeHook? (s.store.typeOf o) .module = none) :
    ∃ m, (readOr o .module (.object .null)).run s = (.ok m, s) := by
  cases hreading : s.store.plainReading? o .module with
  | none =>
    have hlacks := run_readOr_of_lacksModule (.inr ⟨hook, hreading⟩)
    rw [afterReading_of_no_hook hook] at hlacks
    exact ⟨_, hlacks⟩
  | some m =>
    have hreads : s.Reads o .module m := by
      unfold Reads
      rw [hook]
      exact hreading
    have hread := run_read_of_reads hreads
    rw [afterReading_of_no_hook hook] at hread
    exact ⟨m, run_rescue_of_ok hread⟩

/-- An object that is taken for its own class cannot be named if it has no name. Only hooks
give names to objects that are no classes. -/
theorem run_qualifiedName_of_posing (ho : s.store.isClass o = false)
    (h : (classOf o).run s = (.ok o, u)) (hu : u.store = s.store)
    (hmodule : s.store.attributeHook? (s.store.typeOf o) .module = none)
    (hname : s.store.attributeHook? (s.store.typeOf o) .name = none) :
    (qualifiedName o).run s =
      (.error (.fault (s.store.noAttribute o (.ofString Attribute.name.spelling))), u) := by
  rw [← hu] at ho hmodule hname ⊢
  obtain ⟨m, hm⟩ := exists_run_readOr_module hmodule
  have hnone : u.store.plainReading? o .name = none := by
    rw [Store.plainReading?, ho]
    rfl
  rw [qualifiedName, run_bind_of_ok h, run_bind_of_ok hm,
    run_bind_of_error (run_read_of_absent hname hnone)]

end Run

namespace Session

open Run

/-- How the class of an object is found and named. -/
structure NamesClass (s : Session) (o : Obj) : Prop where
  /-- A class, or an object that does not say that it is one, has its real class, and is named
  by what that presents. -/
  of_isCandid : s.store.isClass o = true ∨ s.isCandid o = true →
    ∃ u, (classOf o).run s = (.ok (s.store.realClass o), u) ∧
      ∀ {p : Presentation}, s.Presents (s.store.realClass o) p →
        ∃ r v, (qualifiedName o).run s = (.ok r, v) ∧ s.store.IsPlainName r ∧
          s.store.plain r = p.fullName
  /-- An object that says that it is a class is taken for one although it is none. It is not
  named unless it has a name of its own. -/
  of_gives : ∀ {c : Obj}, s.store.isClass o = false → s.isCandid o = false →
    s.claimed o = .gives c → (classOf o).run s = (.ok o, s.afterReading o .ownClass) ∧
      (s.store.attributeHook? (s.store.typeOf o) .module = none →
        s.store.attributeHook? (s.store.typeOf o) .name = none →
          (qualifiedName o).run s = (.error (.fault (s.store.noAttribute o
            (.ofString Attribute.name.spelling))), s.afterReading o .ownClass))
  /-- What an object throws when it is asked for its class is passed on, unless that is the
  exception for a missing attribute. -/
  of_throws : ∀ {e : Obj}, s.store.isClass o = false → s.isCandid o = false →
    s.claimed o = .throws e →
      (classOf o).run s = (.error (.thrown e), s.afterReading o .ownClass) ∧
        (qualifiedName o).run s = (.error (.thrown e), s.afterReading o .ownClass)

/-- The class of an object is the real one, and named by what it presents, unless the object
is no class and says that it is one, or throws when it is asked for its class. -/
theorem namesClass (s : Session) (o : Obj) : s.NamesClass o where
  of_isCandid := by
    intro h
    by_cases ho : s.store.isClass o = true
    · refine ⟨s, ?_, ?_⟩
      · rw [Store.realClass, if_pos ho]
        exact run_classOf_of_isClass ho
      · intro p hp
        rw [Store.realClass, if_pos ho] at hp
        obtain ⟨r, hr, hplain, hname⟩ := run_qualifiedName_of_presents hp
        exact ⟨r, _, hr, hplain, hname⟩
    · have ho' := eq_false_of_ne_true ho
      have hrun := run_classOf_of_isCandid ho' (h.resolve_left ho)
      refine ⟨s.afterReading o .ownClass, ?_, ?_⟩
      · rw [Store.realClass, if_neg ho]
        exact hrun
      · intro p hp
        rw [Store.realClass, if_neg ho] at hp
        obtain ⟨r, hr, hplain, hname⟩ := run_qualifiedName_of_presents (hp.afterReading o)
        rw [run_qualifiedName_of_run_classOf hrun hp.isClass]
        exact ⟨r, _, hr, hplain, hname⟩
  of_gives := by
    intro c ho hposes h
    have hrun := run_classOf_of_gives ho h hposes
    exact ⟨hrun, run_qualifiedName_of_posing ho hrun rfl⟩
  of_throws := by
    intro e ho hposes h
    have hrun := run_classOf_of_throws ho h hposes
    refine ⟨hrun, ?_⟩
    rw [qualifiedName, run_bind_of_error hrun]

/-- A class in a module whose instances answer as told when they are asked for their class. -/
def answering (name : Text) (answer : Behaviour) : ClassInfo :=
  ⟨name, name, name, some (.cell 0), [.known .object], none, none, none,
    [(.ownClass, ⟨answer, []⟩)], []⟩

/-- A session with an instance that claims to be an integer, one that has no claim, one that
claims to be a class, one that throws when it is asked, and a class whose class has instances
that throw when they are asked. -/
def claimingSession : Session :=
  { Session.start 0 with
    store := ⟨#[⟨.known .text, .text (.ofString "m")⟩,
      ⟨.known .type, .cls (answering (.ofString "Mask") (.gives (.known .integer)))⟩,
      ⟨.cell 1, .bare⟩, ⟨.known .attributeError, .exception [] .none⟩,
      ⟨.known .type, .cls (answering (.ofString "Shy") (.throws (.cell 3)))⟩, ⟨.cell 4, .bare⟩,
      ⟨.known .type, .cls (answering (.ofString "Pose") (.gives (.known .type)))⟩,
      ⟨.cell 6, .bare⟩, ⟨.known .valueError, .exception [] .none⟩,
      ⟨.known .type, .cls (answering (.ofString "Stern") (.throws (.cell 8)))⟩, ⟨.cell 9, .bare⟩,
      ⟨.known .type, .cls { answering (.ofString "Meta") (.throws (.cell 8)) with
        ancestors := [.known .type, .known .object] }⟩,
      ⟨.cell 11, .cls (answering (.ofString "Made") (.gives (.known .type)))⟩]⟩ }

/-- Each class of the session is in the module and has the name that it was made with. -/
theorem presents_claimingSession (c : Obj) (name : Text)
    (h : (c, name) ∈ [(Obj.cell 1, Text.ofString "Mask"), (.cell 4, .ofString "Shy"),
      (.cell 6, .ofString "Pose"), (.cell 9, .ofString "Stern"), (.cell 12, .ofString "Made")]) :
    claimingSession.Presents c ⟨some (.ofString "m"), name⟩ := by
  have hmodule : claimingSession.store.IsPlainText (.cell 0) := ⟨rfl, _, rfl⟩
  simp only [List.mem_cons, List.not_mem_nil, or_false, Prod.mk.injEq] at h
  rcases h with ⟨rfl, rfl⟩ | ⟨rfl, rfl⟩ | ⟨rfl, rfl⟩ | ⟨rfl, rfl⟩ | ⟨rfl, rfl⟩ <;>
    exact ⟨rfl, ⟨.object (.cell 0), rfl, hmodule, rfl⟩, ⟨_, _, rfl, trivial, rfl⟩,
      ⟨_, rfl, trivial, rfl⟩⟩

/-- An instance is named by its real class whatever else it claims to be, and also if it has
no claim. A class is not asked what it claims. -/
theorem namesClass_candid :
    (∃ u r v, (classOf (.cell 2)).run claimingSession = (.ok (.cell 1), u) ∧
      (qualifiedName (.cell 2)).run claimingSession = (.ok r, v) ∧
      claimingSession.store.plain r = .ofString "m.Mask") ∧
    (∃ u r v, (classOf (.cell 5)).run claimingSession = (.ok (.cell 4), u) ∧
      (qualifiedName (.cell 5)).run claimingSession = (.ok r, v) ∧
      claimingSession.store.plain r = .ofString "m.Shy") ∧
    ∃ u r v, (classOf (.cell 12)).run claimingSession = (.ok (.cell 12), u) ∧
      (qualifiedName (.cell 12)).run claimingSession = (.ok r, v) ∧
      claimingSession.store.plain r = .ofString "m.Made" := by
  refine ⟨?_, ?_, ?_⟩
  · obtain ⟨u, hu, hname⟩ := (namesClass claimingSession (.cell 2)).of_isCandid (.inr rfl)
    obtain ⟨r, v, hv, -, hr⟩ :=
      hname (presents_claimingSession (.cell 1) (.ofString "Mask") (by decide))
    exact ⟨u, r, v, hu, hv, hr⟩
  · obtain ⟨u, hu, hname⟩ := (namesClass claimingSession (.cell 5)).of_isCandid (.inr rfl)
    obtain ⟨r, v, hv, -, hr⟩ :=
      hname (presents_claimingSession (.cell 4) (.ofString "Shy") (by decide))
    exact ⟨u, r, v, hu, hv, hr⟩
  · obtain ⟨u, hu, hname⟩ := (namesClass claimingSession (.cell 12)).of_isCandid (.inl rfl)
    obtain ⟨r, v, hv, -, hr⟩ :=
      hname (presents_claimingSession (.cell 12) (.ofString "Made") (by decide))
    exact ⟨u, r, v, hu, hv, hr⟩

/-- An instance of a class with plain names that claims to be a class is taken for its own
class, which it is not, and cannot be named. One that throws when it is asked is given no
class. -/
theorem run_classOf_posing :
    claimingSession.Presents (claimingSession.store.realClass (.cell 7))
        ⟨some (.ofString "m"), .ofString "Pose"⟩ ∧
      claimingSession.store.realClass (.cell 7) = .cell 6 ∧
      (∃ u, (classOf (.cell 7)).run claimingSession = (.ok (.cell 7), u)) ∧
      (∃ f u, (qualifiedName (.cell 7)).run claimingSession = (.error (.fault f), u) ∧
        f.class? = some .attributeError) ∧
      claimingSession.Presents (claimingSession.store.realClass (.cell 10))
        ⟨some (.ofString "m"), .ofString "Stern"⟩ ∧
      ∃ u, (classOf (.cell 10)).run claimingSession = (.error (.thrown (.cell 8)), u) := by
  have hpose : (classOf (.cell 7)).run claimingSession =
      (.ok (.cell 7), claimingSession.afterReading (.cell 7) .ownClass) :=
    run_classOf_of_gives rfl (c := .known .type) rfl rfl
  have hstern := run_classOf_of_throws (s := claimingSession) (o := .cell 10) (e := .cell 8)
    rfl rfl rfl
  refine ⟨presents_claimingSession _ _ (by decide), rfl, ⟨_, hpose⟩, ?_,
    presents_claimingSession _ _ (by decide), _, hstern⟩
  exact ⟨_, _, run_qualifiedName_of_posing rfl hpose rfl rfl rfl, rfl⟩

end Session

end LenientText
