import LenientText.Proofs.Object.Answer
import LenientText.Proofs.Object.Writing

/-!
# What a class presents to those who name it

Naming a class reads its module, its name and its qualified name, each once and in this
order. Where these readings give plain texts the class is named by them, and naming it makes
no other calls than those of the hooks that replace the three readings. The hooks belong to
the class of the class or to its ancestors, and how often one was called does not depend on
the readings of other attributes.
-/

namespace LenientText

namespace Store

/-- An object whose class is the class of texts itself, and which holds a text. -/
structure IsPlainText (s : Store) (o : Obj) : Prop where
  /-- The real class. -/
  typeOf_eq : s.typeOf o = .known .text
  /-- It holds a text. -/
  exists_text : ∃ t, s.text? o = some t

/-- A name that is a text, as such or as an object. -/
def IsPlainName (s : Store) : TextOrObj → Prop
  | .text _ => True
  | .object o => s.IsPlainText o

/-- The call of the hook that replaces the reading of an attribute, if there is one. -/
def readingCalls (s : Store) (o : Obj) (a : Attribute) : List Call :=
  (s.attributeHook? (s.typeOf o) a).toList.map fun h => ⟨h.1, .reading a⟩

/-- The calls of hooks that naming a class makes. -/
def namingCalls (s : Store) (c : Obj) : List Call :=
  s.readingCalls c .module ++ s.readingCalls c .name ++ s.readingCalls c .qualifiedName

variable {s : Store} {o c : Obj} {a b : Attribute} {r : TextOrObj}

/-- Readings of one attribute call no hook for another one. -/
theorem count_readingCalls (h : a ≠ b) (owner : Obj) :
    (s.readingCalls c b).count ⟨owner, .reading a⟩ = 0 := by
  refine List.count_eq_zero.mpr fun hmem => ?_
  obtain ⟨p, -, hp⟩ := List.mem_map.mp hmem
  cases hp
  exact h rfl

/-- The calls made by reading an attribute are calls of the hook for it, which belongs to the
class of the object or to an ancestor of that class. -/
theorem of_mem_readingCalls {call : Call} (h : call ∈ s.readingCalls o a) :
    call.hook = .reading a ∧ call.owner ∈ s.lineage (s.typeOf o) := by
  obtain ⟨⟨owner, script⟩, hp, rfl⟩ := List.mem_map.mp h
  obtain ⟨k, hk, hscript⟩ := List.exists_of_findSome?_eq_some (Option.mem_toList.mp hp)
  obtain ⟨script', -, he⟩ := Option.map_eq_some_iff.mp hscript
  cases he
  exact ⟨rfl, hk⟩

/-- The calls made by naming a class read no other attributes of it than the three names. -/
theorem of_mem_namingCalls {call : Call} (h : call ∈ s.namingCalls c) :
    (∃ a, a ≠ .ownClass ∧ call.hook = .reading a) ∧ call.owner ∈ s.lineage (s.typeOf c) := by
  rw [namingCalls, List.mem_append, List.mem_append] at h
  rcases h with (h | h) | h
  · exact ⟨⟨.module, by decide, (of_mem_readingCalls h).1⟩, (of_mem_readingCalls h).2⟩
  · exact ⟨⟨.name, by decide, (of_mem_readingCalls h).1⟩, (of_mem_readingCalls h).2⟩
  · exact ⟨⟨.qualifiedName, by decide, (of_mem_readingCalls h).1⟩, (of_mem_readingCalls h).2⟩

end Store

/-- What a class presents to those who name it. -/
structure Presentation where
  /-- The module, if there is one. -/
  module? : Option Text
  /-- The name with the names of the classes around it. -/
  qualifiedName : Text
deriving DecidableEq, Repr

/-- The name of a class as it is shown. A module leads it unless that is empty or the one of
the most basic classes. -/
def Presentation.fullName (p : Presentation) : Text :=
  match p.module? with
  | some m =>
    if m.isEmpty || m == Run.basicModule then p.qualifiedName
    else m ++ .ofString "." ++ p.qualifiedName
  | none => p.qualifiedName

namespace Session

/-- The session after reading an attribute of an object. -/
def afterReading (s : Session) (o : Obj) (a : Attribute) : Session :=
  { s with calls := s.calls ++ s.store.readingCalls o a }

/-- The session after naming a class. -/
def afterNaming (s : Session) (c : Obj) : Session :=
  { s with calls := s.calls ++ s.store.namingCalls c }

/-- The session after naming the class of an object and asking for its identity. -/
def afterIdentifying (s : Session) (o : Obj) : Session :=
  { s.afterNaming (s.store.typeOf o) with identified := s.identifiedWith o }

/-- What the next reading of an attribute of an object gives. -/
def Reads (s : Session) (o : Obj) (a : Attribute) (r : TextOrObj) : Prop :=
  match s.store.attributeHook? (s.store.typeOf o) a with
  | some (owner, script) =>
    ∃ p, script.after (s.calls.count ⟨owner, .reading a⟩) = .gives p ∧ r = .object p
  | none => s.store.plainReading? o a = some r

/-- The next reading of an attribute of an object gives a plain text. -/
def ReadsText (s : Session) (o : Obj) (a : Attribute) (t : Text) : Prop :=
  ∃ r, s.Reads o a r ∧ s.store.IsPlainName r ∧ s.store.plain r = t

/-- The module of a class is absent, or nothing stands for it. -/
def LacksModule (s : Session) (c : Obj) : Prop :=
  s.Reads c .module (.object .null) ∨
    s.store.attributeHook? (s.store.typeOf c) .module = none ∧
      s.store.plainReading? c .module = none

/-- The next reading of each of its names gives what a class presents. -/
structure Presents (s : Session) (c : Obj) (p : Presentation) : Prop where
  /-- It is a class. -/
  isClass : s.store.isClass c = true
  /-- The module is a plain text, or lacking. -/
  module : match p.module? with
    | some m => s.ReadsText c .module m
    | none => s.LacksModule c
  /-- The name is a plain text, which need not be told because the qualified name is there. -/
  name : ∃ t, s.ReadsText c .name t
  /-- The qualified name is a plain text. -/
  qualifiedName : s.ReadsText c .qualifiedName p.qualifiedName

variable {s t : Session} {o c : Obj} {a b : Attribute} {r : TextOrObj} {u : Text}

/-- What a reading gives depends on the objects and on the readings of this attribute so
far. -/
theorem Reads.of_count (h : s.Reads o a r) (hstore : t.store = s.store)
    (hcount : ∀ owner, t.calls.count ⟨owner, .reading a⟩ = s.calls.count ⟨owner, .reading a⟩) :
    t.Reads o a r := by
  unfold Reads at h ⊢
  rw [hstore]
  cases hook : s.store.attributeHook? (s.store.typeOf o) a with
  | none =>
    rw [hook] at h
    exact h
  | some p =>
    rw [hook] at h
    dsimp only at h ⊢
    rw [hcount]
    exact h

/-- What the reading of one attribute gives is not changed by reading another one. -/
theorem Reads.afterReading (h : s.Reads o a r) (hne : a ≠ b) (c : Obj) :
    (s.afterReading c b).Reads o a r := by
  refine h.of_count rfl fun owner => ?_
  rw [Session.afterReading, List.count_append, Store.count_readingCalls hne, Nat.add_zero]

/-- The text that the reading of one attribute gives is not changed by reading another one. -/
theorem ReadsText.afterReading (h : s.ReadsText o a u) (hne : a ≠ b) (c : Obj) :
    (s.afterReading c b).ReadsText o a u := by
  obtain ⟨r, hr, hname, hplain⟩ := h
  exact ⟨r, hr.afterReading hne c, hname, hplain⟩

/-- What a class presents is not changed by reading the class that an object claims. -/
theorem Presents.afterReading {p : Presentation} (h : s.Presents c p) (o : Obj) :
    (s.afterReading o .ownClass).Presents c p where
  isClass := h.isClass
  module := by
    have hmodule := h.module
    split at hmodule
    · exact hmodule.afterReading (by decide) o
    · exact hmodule.imp_left fun hreads => hreads.afterReading (by decide) o
  name := by
    obtain ⟨t, ht⟩ := h.name
    exact ⟨t, ht.afterReading (by decide) o⟩
  qualifiedName := h.qualifiedName.afterReading (by decide) o

/-- Reading an attribute that no hook replaces calls nothing. -/
theorem afterReading_of_no_hook
    (hook : s.store.attributeHook? (s.store.typeOf o) a = none) : s.afterReading o a = s := by
  rw [afterReading, Store.readingCalls, hook, Option.toList_none, List.map_nil, List.append_nil]

/-- Naming a class reads its three names one after the other. -/
theorem afterNaming_eq (s : Session) (c : Obj) : s.afterNaming c =
    ((s.afterReading c .module).afterReading c .name).afterReading c .qualifiedName := by
  simp only [afterNaming, afterReading, Store.namingCalls, List.append_assoc]

end Session

namespace Run

open Session

variable {s : Session} {c o : Obj} {a : Attribute} {r : TextOrObj} {p : Presentation} {t : Text}

/-- A plain text object is its own text, at any depth but the last. -/
theorem run_showWithin_text_of_isPlainText (h : s.store.IsPlainText o) (depth : Nat)
    (active : List Obj) :
    (showWithin (depth + 1) .text active o).run s = (.ok (.object o), s) := by
  obtain ⟨t, ht⟩ := h.exists_text
  have hcontent : s.store.content o = .text t := Store.content_of_text? ht
  have hhook : s.store.textHook? (.known .text) = none :=
    s.store.findSome?_lineage_known .text fun _ => rfl
  change (textWith (showWithin depth) active o).run s = _
  rw [textWith, run_bind_of_ok (run_store s), h.typeOf_eq, hhook, hcontent]
  rfl

/-- A plain text object is its own text. -/
theorem run_written_of_isPlainText (h : s.store.IsPlainText o) :
    (written .text o).run s = (.ok (.object o), s) := by
  obtain ⟨depth, hwritten⟩ := exists_written_eq .text o
  rw [hwritten]
  exact run_showWithin_text_of_isPlainText h (depth + 1) []

/-- A plain name counts as true unless it is empty. -/
theorem run_truthOfEither_of_isPlainName (h : s.store.IsPlainName r) :
    (truthOfEither r).run s = (.ok (!(s.store.plain r).isEmpty), s) := by
  cases r with
  | text t => rfl
  | object o =>
    obtain ⟨t, ht⟩ := h.exists_text
    have hplain : s.store.plain (.object o) = t := by rw [Store.plain, ht, Option.getD_some]
    rw [hplain, truthOfEither,
      run_truthOf_of_isTakenPlainly (Store.isTakenPlainly_of_known h.typeOf_eq),
      Store.isTrue_of_content (Store.content_of_text? ht)]

/-- A plain name is an expected text exactly if it reads like it. -/
theorem run_equalsText_of_isPlainName (h : s.store.IsPlainName r) (expected : Text) :
    (equalsText expected r).run s = (.ok (s.store.plain r == expected), s) := by
  cases r with
  | text t => rfl
  | object o =>
    obtain ⟨t, ht⟩ := h.exists_text
    rw [equalsText, run_equals_of_isTakenPlainly (Store.isTakenPlainly_of_known h.typeOf_eq),
      Store.plain, ht, Option.getD_some, Option.some_beq_some]

/-- A plain name is inserted as it is. -/
theorem run_inserted_of_isPlainName (h : s.store.IsPlainName r) :
    (inserted r).run s = (.ok (s.store.plain r), s) := by
  cases r with
  | text t => rfl
  | object o => rw [inserted, textOf, run_plain, run_written_of_isPlainText h]; rfl

/-- The fault of a missing attribute means that it is missing. -/
theorem isA_attributeError_noAttribute (s s' : Store) (o : Obj) (spelling : Text) :
    (Raised.fault (s.noAttribute o spelling)).isA s' .attributeError = true := by
  rw [Raised.isA, Raised.type, Fault.type, Store.derivesFrom_known]
  unfold Store.noAttribute
  split <;> rfl

/-- A class passes for itself. -/
theorem run_classOf_of_isClass (h : s.store.isClass c = true) :
    (classOf c).run s = (.ok c, s) := by
  rw [classOf, run_bind_of_ok (run_isInstance_of_isA h)]
  rfl

/-- The call of the hook for an attribute is noted as the one that reading it makes. -/
theorem run_noteCall_reading {owner : Obj} {script : Script}
    (hook : s.store.attributeHook? (s.store.typeOf o) a = some (owner, script)) :
    (noteCall owner (.reading a)).run s =
      (.ok (s.calls.count ⟨owner, .reading a⟩), s.afterReading o a) := by
  rw [afterReading, Store.readingCalls, hook, Option.toList_some, List.map_singleton]
  rfl

/-- Reading an attribute calls the hook for it, if there is one, and nothing else. -/
theorem run_read_of_reads (h : s.Reads o a r) :
    (read o a).run s = (.ok r, s.afterReading o a) := by
  unfold Reads at h
  cases hook : s.store.attributeHook? (s.store.typeOf o) a with
  | none =>
    rw [hook] at h
    rw [afterReading_of_no_hook hook, read, run_bind_of_ok (run_store s), hook, h]
    rfl
  | some q =>
    rw [hook] at h
    obtain ⟨owner, script⟩ := q
    obtain ⟨p, hgives, rfl⟩ := h
    have hcall : (call owner (.reading a) script).run s = (.ok p, s.afterReading o a) := by
      rw [call, run_bind_of_ok (run_noteCall_reading hook), hgives]
      rfl
    rw [read, run_bind_of_ok (run_store s), hook]
    dsimp only
    rw [run_bind_of_ok hcall]
    rfl

/-- Reading an attribute that does not exist fails. -/
theorem run_read_of_absent (hook : s.store.attributeHook? (s.store.typeOf o) a = none)
    (h : s.store.plainReading? o a = none) : (read o a).run s =
      (.error (.fault (s.store.noAttribute o (.ofString a.spelling))), s) := by
  rw [read, run_bind_of_ok (run_store s), hook, h]
  rfl

/-- A module that is lacking is read as nothing. -/
theorem run_readOr_of_lacksModule (h : s.LacksModule c) :
    (readOr c .module (.object .null)).run s =
      (.ok (.object .null), s.afterReading c .module) := by
  rcases h with hreads | ⟨hook, hreading⟩
  · exact run_rescue_of_ok (run_read_of_reads hreads)
  · rw [afterReading_of_no_hook hook, readOr, run_rescue_of_isA (run_read_of_absent hook hreading)
      (isA_attributeError_noAttribute _ _ _ _)]
    rfl

/-- Naming a class reads its three names and puts the module before the qualified name, unless
that is left out. -/
theorem run_qualifiedName_of_reads {module name qualified : TextOrObj}
    (hclass : s.store.isClass c = true)
    (hmodule : (readOr c .module (.object .null)).run s = (.ok module, s.afterReading c .module))
    (hname : (s.afterReading c .module).Reads c .name name)
    (hqualified : ((s.afterReading c .module).afterReading c .name).Reads c .qualifiedName
      qualified) :
    (qualifiedName c).run s = (ledBy module qualified).run (s.afterNaming c) := by
  have hrest : (readOr c .qualifiedName name).run
      ((s.afterReading c .module).afterReading c .name) = (.ok qualified, s.afterNaming c) := by
    rw [afterNaming_eq]
    exact run_rescue_of_ok (run_read_of_reads hqualified)
  rw [qualifiedName, run_bind_of_ok (run_classOf_of_isClass hclass), run_bind_of_ok hmodule,
    run_bind_of_ok (run_read_of_reads hname), run_bind_of_ok hrest]

/-- A plain name is led by nothing if nothing stands for its module. -/
theorem run_ledBy_null (qualified : TextOrObj) (s : Session) :
    (ledBy (.object .null) qualified).run s = (.ok qualified, s) := by
  have hknown : s.store.typeOf .null = .known .none := rfl
  rw [ledBy, truthOfEither,
    run_bind_of_ok (run_truthOf_of_isTakenPlainly (Store.isTakenPlainly_of_known hknown))]
  rfl

/-- A plain name is led by its module unless that is empty or the one of the most basic
classes. -/
theorem run_ledBy_of_isPlainName {module qualified : TextOrObj} {m q : Text}
    (hmodule : s.store.IsPlainName module) (hm : s.store.plain module = m)
    (hqualified : s.store.IsPlainName qualified) (hq : s.store.plain qualified = q) :
    ∃ r, (ledBy module qualified).run s = (.ok r, s) ∧ s.store.IsPlainName r ∧
      s.store.plain r = Presentation.fullName ⟨some m, q⟩ := by
  have htrue := run_truthOfEither_of_isPlainName hmodule
  have hbasic := run_equalsText_of_isPlainName hmodule basicModule
  rw [hm] at htrue hbasic
  have hname : Presentation.fullName ⟨some m, q⟩ =
      if (m.isEmpty || m == basicModule) = true then q else m ++ .ofString "." ++ q := rfl
  rw [ledBy, run_bind_of_ok htrue, hname]
  cases hempty : m.isEmpty with
  | true => exact ⟨qualified, rfl, hqualified, hq⟩
  | false =>
    rw [Bool.not_false, Bool.not_true, if_neg Bool.false_ne_true, run_bind_of_ok hbasic,
      Bool.false_or]
    cases m == basicModule with
    | true => exact ⟨qualified, rfl, hqualified, hq⟩
    | false =>
      refine ⟨.text (m ++ .ofString "." ++ q), ?_, trivial, rfl⟩
      rw [if_neg Bool.false_ne_true, run_bind_of_ok (run_inserted_of_isPlainName hmodule),
        run_bind_of_ok (run_inserted_of_isPlainName hqualified), hm, hq]
      rfl

/-- A class is named by what it presents, and naming it calls the hooks for its three names
only. -/
theorem run_qualifiedName_of_presents (h : s.Presents c p) :
    ∃ r, (qualifiedName c).run s = (.ok r, s.afterNaming c) ∧ s.store.IsPlainName r ∧
      s.store.plain r = p.fullName := by
  obtain ⟨m?, q⟩ := p
  obtain ⟨hclass, hmodule, ⟨n, hn⟩, hlast⟩ := h
  -- Reading one name leaves what the readings of the later ones give.
  obtain ⟨name, hname, -, -⟩ := hn.afterReading (b := .module) (by decide) c
  have hread := hlast.afterReading (b := .module) (by decide) c
  obtain ⟨qualified, hqualified, hplainly, hq⟩ := hread.afterReading (b := .name) (by decide) c
  cases m? with
  | none =>
    refine ⟨qualified, ?_, hplainly, hq⟩
    rw [run_qualifiedName_of_reads hclass (run_readOr_of_lacksModule hmodule) hname hqualified,
      run_ledBy_null]
  | some m =>
    obtain ⟨module, hmodule, hplain, hm⟩ := hmodule
    rw [run_qualifiedName_of_reads hclass (run_rescue_of_ok (run_read_of_reads hmodule)) hname
      hqualified]
    exact run_ledBy_of_isPlainName (s := s.afterNaming c) hplain hm hplainly hq

/-- The name of a class that presents something is inserted into a message without failing. -/
theorem run_qualifiedName_inserted_of_presents (h : s.Presents c p) :
    (qualifiedName c >>= inserted).run s = (.ok p.fullName, s.afterNaming c) := by
  obtain ⟨r, hr, hname, hfull⟩ := run_qualifiedName_of_presents h
  rw [run_bind_of_ok hr, run_inserted_of_isPlainName (s := s.afterNaming c) hname]
  exact congrArg (fun t => (Except.ok t, s.afterNaming c)) hfull

/-- The identity form of an object consists of the name that its class presents and the number
that is its identity. -/
theorem run_identityText_of_presents (h : s.Presents (s.store.typeOf o) p) :
    (identityText o).run s = (.ok (p.fullName ++ .ofString "@" ++ Numeral.hex (s.identityOf o)),
      s.afterIdentifying o) := by
  obtain ⟨r, hr, hname, hfull⟩ := run_qualifiedName_of_presents h
  have hhex : (identityHex o).run (s.afterNaming (s.store.typeOf o)) =
      (.ok (Numeral.hex (s.identityOf o)), s.afterIdentifying o) := rfl
  rw [identityText, run_bind_of_ok (run_store s), run_bind_of_ok hr, run_bind_of_ok hhex,
    run_bind_of_ok (run_inserted_of_isPlainName (s := s.afterIdentifying o) hname)]
  exact congrArg (fun t => (Except.ok (t ++ .ofString "@" ++ Numeral.hex (s.identityOf o)),
    s.afterIdentifying o)) hfull

end Run

end LenientText
