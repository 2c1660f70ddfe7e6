import Mathlib.Data.List.Basic
import LenientText.Proofs.Lenient.Containment
import LenientText.Proofs.Number.Reading

/-!
# Identity forms are decodable

The identity form of an object joins the name of its class and the numeral of its identity
by an at sign. No numeral contains an at sign, so the last one is that of the form, whatever
stands in the name: what is behind it reads as the identity, and what is before it is the name.
Objects with different identities therefore have different identity forms, and so do two
objects of one session.
-/

namespace LenientText

namespace Text

/-- The at sign, which stands between a name and a number. -/
abbrev atSign : Nat := 0x40

/-- What stands behind the last occurrence of a code point. -/
def behindLast (c : Nat) (t : Text) : Text := (t.reverse.takeWhile (· != c)).reverse

/-- What stands before the last occurrence of a code point. -/
def beforeLast (c : Nat) (t : Text) : Text := ((t.reverse.dropWhile (· != c)).drop 1).reverse

section

variable {c : Nat} {u : Text}

/-- From the end of a text, the code points that are passed before a separator is met. -/
theorem ne_of_mem_reverse (h : c ∉ u) : ∀ d ∈ u.reverse, (d != c) = true := by
  intro d hd
  refine bne_iff_ne.mpr fun hdc => h ?_
  rw [← hdc]
  exact List.mem_reverse.mp hd

/-- Read from its end, a text gives what stands behind a separator first. -/
theorem reverse_append_cons (t : Text) :
    (t ++ c :: u).reverse = u.reverse ++ c :: t.reverse := by
  rw [List.reverse_append, List.reverse_cons, List.append_assoc, List.singleton_append]

/-- A separator that stands in the first part only is not the last one. -/
theorem behindLast_append (h : c ∉ u) (t : Text) : behindLast c (t ++ c :: u) = u := by
  have hstop : ¬(fun d => d != c) c = true := fun h => bne_iff_ne.mp h rfl
  rw [behindLast, reverse_append_cons, List.takeWhile_append_of_pos (ne_of_mem_reverse h),
    List.takeWhile_cons_of_neg (p := fun d => d != c) hstop, List.append_nil, List.reverse_reverse]

/-- Before the last separator stands all of the first part. -/
theorem beforeLast_append (h : c ∉ u) (t : Text) : beforeLast c (t ++ c :: u) = t := by
  have hstop : ¬(fun d => d != c) c = true := fun h => bne_iff_ne.mp h rfl
  rw [beforeLast, reverse_append_cons, List.dropWhile_append_of_pos (ne_of_mem_reverse h),
    List.dropWhile_cons_of_neg (p := fun d => d != c) hstop, List.drop_succ_cons, List.drop_zero,
    List.reverse_reverse]

end

end Text

namespace Session

variable {s t : Session} {o q : Obj} {p p' : Presentation} {name name' x y : Text}

/-- An object that has been asked for its identity is among those that have. -/
theorem mem_identifiedWith (s : Session) (o : Obj) : o ∈ s.identifiedWith o := by
  unfold identifiedWith
  split
  · next h => exact List.contains_iff_mem.mp h
  · exact List.mem_append_right _ (List.mem_singleton_self o)

/-- Of two objects that are asked one after the other, the identities differ. -/
theorem identityOf_afterIdentifying_ne (s : Session) (h : q ≠ o) :
    (s.afterIdentifying o).identityOf q ≠ s.identityOf o := by
  have ho : o ∈ s.identifiedWith o := s.mem_identifiedWith o
  have hidentified : (s.afterIdentifying o).identified = s.identifiedWith o := rfl
  have hindex : ((s.afterIdentifying o).identifiedWith q).idxOf q ≠
      (s.identifiedWith o).idxOf o := by
    rw [identifiedWith, hidentified]
    by_cases hq : q ∈ s.identifiedWith o
    · rw [if_pos (List.contains_iff_mem.mpr hq)]
      intro he
      exact h ((List.idxOf_inj hq).mp he)
    · have hlast : (s.identifiedWith o ++ [q]).idxOf q = (s.identifiedWith o).length := by
        rw [List.idxOf_append_of_notMem hq, List.idxOf_cons_self, Nat.add_zero]
      have hbefore : (s.identifiedWith o).idxOf o < (s.identifiedWith o).length :=
        List.idxOf_lt_length_iff.mpr ho
      rw [if_neg fun hc => hq (List.contains_iff_mem.mp hc), hlast]
      exact Nat.ne_of_gt hbefore
  have hfirst : (s.afterIdentifying o).firstIdentity = s.firstIdentity := rfl
  have hstep : 0 < identityStep := by decide
  intro he
  rw [identityOf, identityOf, hfirst, Nat.add_left_cancel_iff] at he
  exact hindex (Nat.eq_of_mul_eq_mul_left hstep he)

/-- A text is the identity form of an object whose class goes by a name, and it can be taken
apart. -/
structure IsIdentityForm (s : Session) (o : Obj) (name x : Text) : Prop where
  /-- Asking for the identity form gives the text, without failing. -/
  run_identityText : (Run.identityText o).run s = (.ok x, s.afterIdentifying o)
  /-- The real class of the object goes by the name. -/
  run_name : (Run.qualifiedName (s.store.typeOf o) >>= Run.inserted).run s =
    (.ok name, s.afterNaming (s.store.typeOf o))
  /-- The text consists of the name, an at sign, and the number of the object in base sixteen,
  in which there is no at sign. -/
  exists_hex : ∃ hex t, (Run.identityHex o).run s = (.ok hex, t) ∧
    x = name ++ .ofString "@" ++ hex ∧ Numeral.IsHex hex (s.identityOf o) ∧ Text.atSign ∉ hex
  /-- What is behind the last at sign reads as the identity in base sixteen. -/
  read?_behindLast : Numeral.read? 16 (Text.behindLast Text.atSign x) = some (s.identityOf o)
  /-- What is before the last at sign is the name. -/
  beforeLast_eq : Text.beforeLast Text.atSign x = name

/-- The identity form of an object can be taken apart. -/
theorem isIdentityForm_of_presents (h : s.Presents (s.store.typeOf o) p) :
    s.IsIdentityForm o p.fullName
      (p.fullName ++ .ofString "@" ++ Numeral.hex (s.identityOf o)) := by
  have hhex : Numeral.IsHex (Numeral.hex (s.identityOf o)) (s.identityOf o) :=
    Numeral.isHex_hex (s.identityOf o)
  have hat : Text.atSign ∉ Numeral.hex (s.identityOf o) := hhex.not_mem (by decide)
  have hjoined : p.fullName ++ Text.ofString "@" ++ Numeral.hex (s.identityOf o) =
      p.fullName ++ Text.atSign :: Numeral.hex (s.identityOf o) :=
    List.append_assoc _ _ _
  exact {
    run_identityText := Run.run_identityText_of_presents h
    run_name := Run.run_qualifiedName_inserted_of_presents h
    exists_hex := ⟨_, _, rfl, rfl, hhex, hat⟩
    read?_behindLast := by
      rw [hjoined, Text.behindLast_append hat]
      exact hhex.read?_eq
    beforeLast_eq := by rw [hjoined, Text.beforeLast_append hat] }

/-- Objects with the same identity form have the same identity. -/
theorem IsIdentityForm.identityOf_eq (h : s.IsIdentityForm o name x)
    (h' : t.IsIdentityForm q name' x) : s.identityOf o = t.identityOf q :=
  Option.some.inj (h.read?_behindLast.symm.trans h'.read?_behindLast)

/-- Objects whose classes present names have identity forms that can be taken apart. These
differ if the identities do, whatever the names are, and the identities of two objects of one
session do. -/
theorem exists_isIdentityForm (ho : s.Presents (s.store.typeOf o) p)
    (hq : t.Presents (t.store.typeOf q) p') :
    ∃ x y, s.IsIdentityForm o p.fullName x ∧ t.IsIdentityForm q p'.fullName y ∧
      (s.identityOf o ≠ t.identityOf q → x ≠ y) ∧ (t = s.afterIdentifying o → q ≠ o → x ≠ y) := by
  have hx := isIdentityForm_of_presents ho
  have hy := isIdentityForm_of_presents hq
  refine ⟨_, _, hx, hy, fun hne hxy => hne ?_, fun ht hqo hxy => ?_⟩
  · rw [← hxy] at hy
    exact hx.identityOf_eq hy
  · rw [← hxy] at hy
    have hsame := hx.identityOf_eq hy
    rw [ht] at hsame
    exact s.identityOf_afterIdentifying_ne hqo hsame.symm

/-- A session with an instance of a class `A` and an instance of a class whose name is that of
an identity form. -/
def namesakeSession : Session :=
  { Session.start defaultIdentity with
    store := ⟨#[
      ⟨.known .type, .cls (plainClass (.ofString "A@7f00abc0") [.known .object])⟩,
      ⟨.known .type, .cls (plainClass (.ofString "A") [.known .object])⟩,
      ⟨.cell 0, .bare⟩, ⟨.cell 1, .bare⟩]⟩ }

/-- The identity form of the one instance begins like that of the other, and both are read as
what they stand for. -/
theorem exists_isIdentityForm_namesake :
    ∃ y, namesakeSession.IsIdentityForm (.cell 2) (.ofString "A@7f00abc0")
        (.ofString "A@7f00abc0@7f00abc0") ∧
      (namesakeSession.afterIdentifying (.cell 2)).IsIdentityForm (.cell 3) (.ofString "A") y ∧
      .ofString "A@7f00abc0@7f00abc0" ≠ y := by
  have ho : namesakeSession.Presents (namesakeSession.store.typeOf (.cell 2))
      ⟨none, .ofString "A@7f00abc0"⟩ :=
    { isClass := rfl
      module := .inr ⟨rfl, rfl⟩
      name := ⟨_, _, rfl, trivial, rfl⟩
      qualifiedName := ⟨.text (.ofString "A@7f00abc0"), rfl, trivial, rfl⟩ }
  have hq : (namesakeSession.afterIdentifying (.cell 2)).Presents
      (namesakeSession.store.typeOf (.cell 3)) ⟨none, .ofString "A"⟩ :=
    { isClass := rfl
      module := .inr ⟨rfl, rfl⟩
      name := ⟨_, _, rfl, trivial, rfl⟩
      qualifiedName := ⟨.text (.ofString "A"), rfl, trivial, rfl⟩ }
  obtain ⟨x, y, hx, hy, -, hne⟩ := exists_isIdentityForm ho hq
  have hhex : Numeral.hex (namesakeSession.identityOf (.cell 2)) = .ofString "7f00abc0" := by
    decide +kernel
  have hform : (Run.identityText (.cell 2)).run namesakeSession =
      (.ok (.ofString "A@7f00abc0@7f00abc0"), namesakeSession.afterIdentifying (.cell 2)) := by
    rw [Run.run_identityText_of_presents ho, hhex]
    rfl
  have hx' : x = .ofString "A@7f00abc0@7f00abc0" :=
    Except.ok.inj (congrArg Prod.fst (hx.run_identityText.symm.trans hform))
  rw [hx'] at hx hne
  exact ⟨y, hx, hy, hne rfl (by decide)⟩

end Session

end LenientText
