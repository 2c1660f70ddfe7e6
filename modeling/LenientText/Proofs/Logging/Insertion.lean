import LenientText.Object.Printing
import LenientText.Proofs.Logging.Lineage

/-!
# Loggers that are put in without being noticed

Creating a logger puts it between others, and in general that may give these another parent
than before, so that another level decides. It does not for a name that ends in no dot and
does not begin like the name of the root. The new logger then has those for ancestors that
stood behind it already, and it passes its children on to the parent that they had. Nothing
else about the registry or about the other names matters.
-/

namespace LenientText.Registry

/-- A name that does not end in a dot and does not begin like the name of the root. -/
structure IsInert (name : Text) : Prop where
  /-- The last code point is no dot. -/
  getLast?_ne : name.getLast? ≠ some Text.dot
  /-- The first code point is not that of the name of the root. -/
  head?_ne : name.head? ≠ rootName.head?

/-- The text behind a dot has an ancestor where it begins, seen from the end of a name. -/
theorem ancestorsBackward_of_cons {reversed rest : Text} {d c : Nat}
    (h : reversed.dropWhile (· != Text.dot) = d :: c :: rest) :
    ancestorsBackward reversed = (c :: rest).reverse :: ancestorsBackward rest := by
  rw [ancestorsBackward]
  split
  · next d' c' rest' h' =>
    rw [h] at h'
    cases h'
    rfl
  · next hnot => exact absurd h (hnot d c rest)

/-- What is no dot at the end of a name is skipped. -/
theorem ancestorsBackward_cons {c : Nat} (hc : c ≠ Text.dot) (reversed : Text) :
    ancestorsBackward (c :: reversed) = ancestorsBackward reversed := by
  have hdrop : (c :: reversed).dropWhile (· != Text.dot) = reversed.dropWhile (· != Text.dot) :=
    List.dropWhile_cons_of_pos (p := fun d => d != Text.dot) (bne_iff_ne.mpr hc)
  rw [ancestorsBackward]
  split
  · next d c' rest h =>
    rw [hdrop] at h
    exact (ancestorsBackward_of_cons h).symm
  · next hnot =>
    rw [hdrop] at hnot
    rw [ancestorsBackward]
    split
    · next d c' rest h => exact absurd h (hnot d c' rest)
    · rfl

section

variable {r : Registry} {n name : Text}

/-- Behind an ancestor that ends in no dot, its own ancestors are listed. -/
theorem exists_ancestors_eq_append (hlast : n.getLast? ≠ some Text.dot) (h : n ∈ ancestors name) :
    ∃ nearer, n ∉ nearer ∧ ancestors name = nearer ++ n :: ancestors n := by
  have hbackward : ∀ reversed, n ∈ ancestorsBackward reversed →
      ∃ nearer, n ∉ nearer ∧ ancestorsBackward reversed = nearer ++ n :: ancestors n := by
    intro reversed hmem
    fun_induction ancestorsBackward reversed with
    | case1 reversed d c rest hd ih =>
      by_cases hn : n = (c :: rest).reverse
      · have hc : c ≠ Text.dot := by
          intro hdot
          refine hlast ?_
          rw [hn, List.getLast?_reverse, List.head?_cons, hdot]
        have hown : ancestors n = ancestorsBackward rest := by
          rw [ancestors, hn, List.reverse_reverse, ancestorsBackward_cons hc]
        exact ⟨[], List.not_mem_nil, by rw [hown, ← hn, List.nil_append]⟩
      · obtain ⟨nearer, hnot, heq⟩ := ih ((List.mem_cons.mp hmem).resolve_left hn)
        refine ⟨(c :: rest).reverse :: nearer, ?_, by rw [heq, List.cons_append]⟩
        rw [List.mem_cons, not_or]
        exact ⟨hn, hnot⟩
    | case2 => exact absurd hmem List.not_mem_nil
  exact hbackward name.reverse h

/-- An ancestor is a start of the name, and not an empty one. -/
theorem isPrefix_of_mem_ancestors {a : Text} (h : a ∈ ancestors name) : a ≠ [] ∧ a <+: name := by
  have hbackward : ∀ reversed : Text, a ∈ ancestorsBackward reversed →
      a ≠ [] ∧ a.reverse <:+ reversed := by
    intro reversed hmem
    fun_induction ancestorsBackward reversed with
    | case1 reversed d c rest hd ih =>
      have hsuffix : c :: rest <:+ reversed := by
        have hdropped : d :: c :: rest <:+ reversed := hd ▸ List.dropWhile_suffix _
        exact (List.suffix_cons d _).trans hdropped
      rcases List.mem_cons.mp hmem with rfl | hrest
      · rw [List.reverse_reverse]
        exact ⟨List.reverse_ne_nil_iff.mpr (List.cons_ne_nil c rest), hsuffix⟩
      · obtain ⟨hne, hbehind⟩ := ih hrest
        exact ⟨hne, (hbehind.trans (List.suffix_cons c rest)).trans hsuffix⟩
    | case2 => exact absurd hmem List.not_mem_nil
  obtain ⟨hne, hsuffix⟩ := hbackward name.reverse h
  exact ⟨hne, List.reverse_suffix.mp hsuffix⟩

/-- A nonempty start of a name that does not begin like the name of the root is no start of
that. -/
theorem IsInert.not_isPrefixOf (hn : IsInert n) {a : Text} (hne : a ≠ []) (ha : a <+: n) :
    a.isPrefixOf rootName = false := by
  rw [← Bool.not_eq_true, List.isPrefixOf_iff_prefix]
  intro hroot
  obtain ⟨t, rfl⟩ := ha
  obtain ⟨u, hu⟩ := hroot
  refine hn.head?_ne ?_
  rw [← hu, List.head?_append_of_ne_nil _ hne, List.head?_append_of_ne_nil _ hne]

/-- The ancestors of an inert name adopt every child. -/
theorem IsInert.adopts_of_mem_ancestors (hn : IsInert n) {a : Text} (ha : a ∈ ancestors n)
    (r : Registry) (child : Text) : r.adopts a child = true := by
  obtain ⟨hne, hprefix⟩ := isPrefix_of_mem_ancestors ha
  rw [adopts, hn.not_isPrefixOf hne hprefix]
  rfl

/-- A logger that is created with a name stands behind those that are there, and is the only
change. -/
theorem ensure_of_new (hroot : isRoot n = false) (hnew : r.has n = false) :
    r.ensure n = { r with loggers := r.loggers ++ [.fresh n] } := by
  rw [ensure, hroot, hnew]
  rfl

/-- For other names there is a logger exactly if there was one. -/
theorem has_ensure_of_ne (hroot : isRoot n = false) (hnew : r.has n = false) {a : Text}
    (ha : a ≠ n) : (r.ensure n).has a = r.has a := by
  have hname : ((Logger.fresh n).name == a) = false := beq_eq_false_iff_ne.mpr ha.symm
  rw [ensure_of_new hroot hnew, has, find?, has, find?, List.find?_append, List.find?_singleton,
    hname, if_neg Bool.false_ne_true, Option.or_none]

/-- A logger that was there adopts the same children. -/
theorem adopts_ensure (hroot : isRoot n = false) (hnew : r.has n = false) {a : Text}
    (ha : r.has a = true) (child : Text) : (r.ensure n).adopts a child = r.adopts a child := by
  have hlength : (r.loggers.takeWhile (·.name != a)).length ≠ r.loggers.length := by
    intro hall
    have htaken : r.loggers.takeWhile (·.name != a) = r.loggers :=
      (List.takeWhile_prefix _).eq_of_length hall
    obtain ⟨l, hl, hla⟩ := List.mem_map.mp (has_iff.mp ha)
    have hpassed : (r.loggers.takeWhile (·.name != a)).all (·.name != a) = true :=
      List.all_takeWhile
    rw [htaken, List.all_eq_true] at hpassed
    exact bne_iff_ne.mp (hpassed l hl) hla
  rw [ensure_of_new hroot hnew, adopts, adopts, isOlder, isOlder, List.takeWhile_append,
    if_neg hlength]

/-- A search among names that finds no new logger finds what it found before. -/
theorem find?_adopts_ensure (hroot : isRoot n = false) (hnew : r.has n = false)
    {names : List Text} (hn : n ∉ names) (child : Text) :
    (names.find? fun a => (r.ensure n).has a && (r.ensure n).adopts a child) =
      names.find? fun a => r.has a && r.adopts a child := by
  have hsame : ∀ a ∈ names, ((r.ensure n).has a && (r.ensure n).adopts a child) =
      (r.has a && r.adopts a child) := by
    intro a ha
    have hne : a ≠ n := fun he => hn (he ▸ ha)
    rw [has_ensure_of_ne hroot hnew hne]
    cases hhas : r.has a with
    | false => rfl
    | true => rw [adopts_ensure hroot hnew hhas]
  rw [← List.head?_filter, ← List.head?_filter, List.filter_congr hsame]

/-- A new logger with an inert name has the parent that stood behind it already. Every other
logger keeps its parent, or gets the new one between that and itself. -/
theorem IsInert.parentName?_ensure (hn : IsInert n) (hroot : isRoot n = false)
    (hnew : r.has n = false) (name : Text) :
    (r.ensure n).parentName? name = r.parentName? name ∨
      (r.ensure n).parentName? name = some n ∧
        (r.ensure n).parentName? n = r.parentName? name := by
  by_cases hmem : n ∈ ancestors name
  · obtain ⟨nearer, hnearer, hsplit⟩ := exists_ancestors_eq_append hn.getLast?_ne hmem
    have hfirst := find?_adopts_ensure hroot hnew hnearer name
    cases hfound : nearer.find? fun a => r.has a && r.adopts a name with
    | some p =>
      rw [hfound] at hfirst
      refine .inl ?_
      rw [parentName?, parentName?, hsplit, List.find?_append, List.find?_append, hfirst, hfound,
        Option.some_or, Option.some_or]
    | none =>
      rw [hfound] at hfirst
      have hfar : n ∉ ancestors n := fun h => Nat.lt_irrefl _ (length_lt_of_mem_ancestors h)
      have hadopts : ∀ child, (r.ensure n).adopts n child = true := by
        intro child
        have hne : n ≠ [] := (isPrefix_of_mem_ancestors hmem).1
        rw [adopts, hn.not_isPrefixOf hne (List.prefix_refl n)]
        rfl
      -- The ancestors of the new logger adopt it exactly as they adopt its children.
      have hbehind : ((ancestors n).find? fun a => r.has a && r.adopts a name) =
          (ancestors n).find? fun a => r.has a && r.adopts a n := by
        have hsame : ∀ a ∈ ancestors n, (r.has a && r.adopts a name) =
            (r.has a && r.adopts a n) := by
          intro a ha
          rw [hn.adopts_of_mem_ancestors ha, hn.adopts_of_mem_ancestors ha]
        rw [← List.head?_filter, ← List.head?_filter, List.filter_congr hsame]
      refine .inr ⟨?_, ?_⟩
      · have hhas : ((r.ensure n).has n && (r.ensure n).adopts n name) = true := by
          rw [has_ensure hroot, hadopts, Bool.and_true]
        rw [parentName?, hsplit, List.find?_append, hfirst, Option.none_or,
          List.find?_cons_of_pos (p := fun a => (r.ensure n).has a && (r.ensure n).adopts a name)
            hhas]
      · have hhas : ¬(r.has n && r.adopts n name) = true := by
          rw [hnew, Bool.false_and]
          exact Bool.false_ne_true
        rw [parentName?, find?_adopts_ensure hroot hnew hfar, parentName?, hsplit,
          List.find?_append, hfound, Option.none_or,
          List.find?_cons_of_neg (p := fun a => r.has a && r.adopts a name) hhas, hbehind]
  · refine .inl ?_
    rw [parentName?, find?_adopts_ensure hroot hnew hmem, parentName?]

/-- What is found for a name, or would be created for it, is the same after a creation. -/
theorem find?_getD_ensure (r : Registry) (n name : Text) :
    ((r.ensure n).find? name).getD (.fresh name) = (r.find? name).getD (.fresh name) := by
  rcases find?_ensure r n name with hsame | ⟨hnone, hfresh⟩
  · rw [hsame]
  · rw [hnone, hfresh]
    rfl

/-- The creation of a logger with an inert name puts it into lineages, and does nothing else to
them. -/
theorem IsInert.widens_lineageBelow (hn : IsInert n) (hroot : isRoot n = false)
    (hnew : r.has n = false) (name : Text) :
    Widens (r.lineageBelow name) ((r.ensure n).lineageBelow name) := by
  -- The parent has a shorter name, so the induction is on the length.
  induction hlen : name.length using Nat.strongRecOn generalizing name with
  | ind length ih =>
    have hend : Widens [r.root] [(r.ensure n).root] := by
      rw [root_ensure]
      exact .keep _ .nil
    have hrest : ∀ {p}, r.parentName? name = some p →
        Widens (r.lineageBelow p) ((r.ensure n).lineageBelow p) := by
      intro p hp
      exact ih p.length (hlen ▸ length_parentName_lt hp) p rfl
    have hfresh : ((r.ensure n).find? n).getD (.fresh n) = .fresh n := by
      rw [find?_getD_ensure]
      rw [has, Option.isSome_eq_false_iff, Option.isNone_iff_eq_none] at hnew
      rw [hnew, Option.getD_none]
    rcases hn.parentName?_ensure hroot hnew name with hsame | ⟨hbetween, hbehind⟩
    · cases hp : r.parentName? name with
      | none =>
        rw [lineageBelow_of_none hp, lineageBelow_of_none (hsame.trans hp), find?_getD_ensure]
        exact .keep _ hend
      | some p =>
        rw [lineageBelow_of_some hp, lineageBelow_of_some (hsame.trans hp), find?_getD_ensure]
        exact .keep _ (hrest hp)
    · rw [lineageBelow_of_some hbetween, find?_getD_ensure]
      cases hp : r.parentName? name with
      | none =>
        rw [lineageBelow_of_none hp, lineageBelow_of_none (hbehind.trans hp), hfresh]
        exact .keep _ (.add n hend)
      | some p =>
        rw [lineageBelow_of_some hp, lineageBelow_of_some (hbehind.trans hp), hfresh]
        exact .keep _ (.add n (hrest hp))

/-- A logger that is there is not created anew. -/
theorem ensure_of_isThere (h : r.IsThere n) : r.ensure n = r := by
  have hthere : (isRoot n || r.has n) = true := by
    rw [Bool.or_eq_true]
    exact h
  rw [ensure, if_pos hthere]

/-- Asking for a logger that is there, or for one with an inert name, puts a fresh logger into
lineages at most. -/
theorem widens_lineage_ensure (hn : r.IsThere n ∨ IsInert n) (name : Text) :
    Widens (r.lineage name) ((r.ensure n).lineage name) := by
  have hrefl : ∀ ls, Widens ls ls := by
    intro ls
    induction ls with
    | nil => exact .nil
    | cons l ls ih => exact .keep l ih
  by_cases hthere : r.IsThere n
  · rw [ensure_of_isThere hthere]
    exact hrefl _
  · rw [IsThere, not_or] at hthere
    have hnew := eq_false_of_ne_true hthere.2
    unfold lineage
    by_cases hroot : isRoot name = true
    · rw [if_pos hroot, if_pos hroot, root_ensure]
      exact hrefl _
    · rw [if_neg hroot, if_neg hroot]
      exact (hn.resolve_left fun h => h.elim hthere.1 hthere.2).widens_lineageBelow
        (eq_false_of_ne_true hthere.1) hnew name

/-- Asking for such a logger changes the display form of no logger. -/
theorem display_ensure (hn : r.IsThere n ∨ IsInert n) (name : Text) :
    (r.ensure n).display name = r.display name := by
  have hlogger : (r.ensure n).logger name = r.logger name := by
    rw [logger, logger, root_ensure, find?_getD_ensure]
  have hlevel : (r.ensure n).effectiveLevel name = r.effectiveLevel name :=
    (widens_lineage_ensure hn name).firstLevel_eq
  rw [display, display, hlogger, hlevel]

end

end LenientText.Registry
