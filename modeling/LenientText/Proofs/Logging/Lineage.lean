import LenientText.Proofs.Logging.Creation
import Mathlib.Data.List.Infix

/-!
# Lineages of dotted names

Where the parent of every logger is the nearest logger among its dotted ancestors, the
lineage of a logger can be read off the names alone: it consists of the loggers among
the name and its dotted ancestors, the longest name first, and of the root. Creating
loggers then puts fresh ones into a lineage and leaves the rest of it in order, and a
fresh logger neither decides on a level nor holds a handler nor stops a record.

The lookup departs from this rule for odd names only. Names without two dots in a row
that are no start of the name of the root always follow it.
-/

namespace LenientText.Registry

/-- The starts before the dots of a name that is given from its end, the longest first. -/
def dottedBackward : Text → List Text
  | [] => []
  | c :: rest =>
    if c = Text.dot ∧ rest ≠ [] then rest.reverse :: dottedBackward rest else dottedBackward rest

/-- The dotted ancestors of a name, the nearest first: its starts before each of its dots.
The empty start is no name. -/
def dottedAncestors (name : Text) : List Text := dottedBackward name.reverse

/-- The parent of every logger is the nearest logger among the dotted ancestors. -/
def FollowsDots (r : Registry) : Prop :=
  ∀ name, r.has name = true → r.parentName? name = (dottedAncestors name).find? r.has

/-- Behind an ancestor the ancestors of that one are listed. -/
theorem eq_dottedAncestors_of_append {reversed a : Text} {nearer farther : List Text}
    (h : dottedBackward reversed = nearer ++ a :: farther) : farther = dottedAncestors a := by
  induction reversed generalizing nearer with
  | nil => exact absurd h.symm (List.append_ne_nil_of_right_ne_nil _ (List.cons_ne_nil _ _))
  | cons c reversed ih =>
    rw [dottedBackward] at h
    split at h
    · cases nearer with
      | nil =>
        obtain ⟨ha, hfarther⟩ := List.cons.inj h
        rw [← hfarther, ← ha, dottedAncestors, List.reverse_reverse]
      | cons first nearer => exact ih (List.cons.inj h).2
    · exact ih h

section

variable {r r' : Registry} {name : Text}

/-- No logger is found among names that have none. -/
theorem filterMap_find?_eq_nil {names : List Text} (h : ∀ a ∈ names, r.has a = false) :
    names.filterMap r.find? = [] := by
  rw [List.filterMap_eq_nil_iff]
  intro a ha
  exact Option.isSome_eq_false_iff.mp (h a ha) |> Option.isNone_iff_eq_none.mp

/-- A lineage goes on with the parent. -/
theorem lineageBelow_of_some {p : Text} (h : r.parentName? name = some p) :
    r.lineageBelow name = (r.find? name).getD (.fresh name) :: r.lineageBelow p := by
  rw [lineageBelow]
  split
  · next q hq => rw [Option.some.inj (h.symm.trans hq)]
  · next hnone =>
    rw [h] at hnone
    cases hnone

/-- Without a parent below the root, the root comes next. -/
theorem lineageBelow_of_none (h : r.parentName? name = none) :
    r.lineageBelow name = [(r.find? name).getD (.fresh name), r.root] := by
  rw [lineageBelow]
  split
  · next q hq =>
    rw [h] at hq
    cases hq
  · rfl

/-- In a registry that follows the dots, the lineage of a logger consists of the loggers
among the name and its dotted ancestors, and of the root. -/
theorem FollowsDots.lineageBelow_eq (h : r.FollowsDots) (hname : r.has name = true) :
    r.lineageBelow name = (name :: dottedAncestors name).filterMap r.find? ++ [r.root] := by
  -- The parent has a shorter name, so the induction is on the length.
  induction hlen : name.length using Nat.strongRecOn generalizing name with
  | ind length ih =>
    have hparent := h name hname
    obtain ⟨l, hl⟩ := Option.isSome_iff_exists.mp hname
    rw [List.filterMap_cons_some hl, List.cons_append]
    cases hp : r.parentName? name with
    | some p =>
      have hshorter : p.length < length := hlen ▸ length_parentName_lt hp
      rw [lineageBelow_of_some hp, hl, Option.getD_some]
      rw [hparent] at hp
      obtain ⟨hhas, nearer, farther, hsplit, hskipped⟩ := List.find?_eq_some_iff_append.mp hp
      have hnone : nearer.filterMap r.find? = [] := by
        refine filterMap_find?_eq_nil fun a ha => ?_
        have hnot := hskipped a ha
        rwa [Bool.not_eq_true'] at hnot
      rw [ih p.length hshorter hhas rfl, hsplit, List.filterMap_append, hnone, List.nil_append,
        eq_dottedAncestors_of_append hsplit]
    | none =>
      rw [lineageBelow_of_none hp, hl, Option.getD_some]
      rw [hparent, List.find?_eq_none] at hp
      have hnone : (dottedAncestors name).filterMap r.find? = [] :=
        filterMap_find?_eq_nil fun a ha => eq_false_of_ne_true (hp a ha)
      rw [hnone, List.nil_append]

/-- In a lineage fresh loggers are put between others. -/
inductive Widens : List Logger → List Logger → Prop
  /-- Both end here. -/
  | nil : Widens [] []
  /-- A logger stands in both. -/
  | keep (l : Logger) {ls ks : List Logger} (h : Widens ls ks) : Widens (l :: ls) (l :: ks)
  /-- A fresh logger is put in. -/
  | add (name : Text) {ls ks : List Logger} (h : Widens ls ks) : Widens ls (.fresh name :: ks)

/-- A fresh logger decides on no level. -/
theorem Widens.firstLevel_eq {ls ks : List Logger} (h : Widens ls ks) :
    firstLevel ks = firstLevel ls := by
  induction h with
  | nil => rfl
  | keep l _ ih => rw [firstLevel, firstLevel, ih]
  | add name _ ih =>
    have hlevel : (Logger.fresh name).level = 0 := rfl
    rw [firstLevel, if_pos hlevel, ih]

/-- A fresh logger has no handler and stops no record. -/
theorem Widens.met_eq {ls ks : List Logger} (h : Widens ls ks) : met ks = met ls := by
  induction h with
  | nil => rfl
  | keep l _ ih => rw [met, met, ih]
  | add name _ ih =>
    have hpropagates : (Logger.fresh name).propagates = true := rfl
    have hhandlers : (Logger.fresh name).handlers = [] := rfl
    rw [met, if_pos hpropagates, hhandlers, List.map_nil, List.nil_append, ih]

/-- Creating loggers puts fresh ones among those of some names. -/
theorem OnlyCreates.widens (h : r.OnlyCreates r') (names : List Text) :
    Widens (names.filterMap r.find? ++ [r.root]) (names.filterMap r'.find? ++ [r'.root]) := by
  induction names with
  | nil =>
    rw [h.root_eq]
    exact .keep _ .nil
  | cons name names ih =>
    rcases h.find?_cases name with hsame | ⟨hnone, hfresh⟩
    · rw [List.filterMap_cons, List.filterMap_cons, hsame]
      cases r.find? name with
      | none => exact ih
      | some l => exact .keep l ih
    · rw [List.filterMap_cons_none hnone, List.filterMap_cons_some hfresh]
      exact .add name ih

/-- Creating loggers puts fresh ones into the lineage of every logger that is there. -/
theorem OnlyCreates.widens_lineage (h : r.OnlyCreates r') (hr : r.FollowsDots)
    (hr' : r'.FollowsDots) (hname : r.IsThere name) :
    Widens (r.lineage name) (r'.lineage name) := by
  unfold lineage
  by_cases hroot : isRoot name = true
  · rw [if_pos hroot, if_pos hroot, h.root_eq]
    exact .keep _ .nil
  · rw [if_neg hroot, if_neg hroot, hr.lineageBelow_eq (hname.resolve_left hroot),
      hr'.lineageBelow_eq ((h.isThere hname).resolve_left hroot)]
    exact h.widens _

/-- A name in which no dot follows another, and which is no start of the name of the
root. -/
structure IsOrdinary (name : Text) : Prop where
  /-- No dot follows another. -/
  dots_apart : ¬[Text.dot, Text.dot] <:+: name
  /-- It is no start of the name of the root. -/
  not_isPrefix : ¬name <+: rootName

instance (name : Text) : Decidable (IsOrdinary name) :=
  decidable_of_iff (¬[Text.dot, Text.dot] <:+: name ∧ ¬name <+: rootName)
    ⟨fun h => ⟨h.1, h.2⟩, fun h => ⟨h.dots_apart, h.not_isPrefix⟩⟩

/-- Up to the last dot of a name nothing is listed. -/
theorem dottedBackward_dropWhile (reversed : Text) :
    dottedBackward (reversed.dropWhile (· != Text.dot)) = dottedBackward reversed := by
  induction reversed with
  | nil => rfl
  | cons c reversed ih =>
    by_cases hc : c = Text.dot
    · rw [List.dropWhile_cons_of_neg (by simp only [hc, bne_self_eq_false, Bool.false_eq_true,
        not_false_eq_true])]
    · have hdrop : (c :: reversed).dropWhile (· != Text.dot) =
          reversed.dropWhile (· != Text.dot) :=
        List.dropWhile_cons_of_pos (p := fun d => d != Text.dot) (bne_iff_ne.mpr hc)
      rw [hdrop, ih, dottedBackward, if_neg fun h => hc h.1]

/-- Where no dot follows another, the lookup skips no dotted ancestor. -/
theorem ancestorsBackward_eq {reversed : Text} (h : ¬[Text.dot, Text.dot] <:+: reversed) :
    ancestorsBackward reversed = dottedBackward reversed := by
  fun_induction ancestorsBackward reversed with
  | case1 reversed d c rest hd ih =>
    have hsuffix : d :: c :: rest <:+ reversed := hd ▸ List.dropWhile_suffix _
    have hdot : d = Text.dot := by
      have hhead := List.head?_dropWhile_not (· != Text.dot) reversed
      rw [hd] at hhead
      simpa using hhead
    have hc : c ≠ Text.dot := by
      rintro rfl
      rw [hdot] at hsuffix
      exact h ((List.prefix_append [Text.dot, Text.dot] rest).isInfix.trans hsuffix.isInfix)
    have hrest : ¬[Text.dot, Text.dot] <:+: rest := by
      intro hdots
      have hbehind : rest <:+ reversed :=
        ((List.suffix_cons c rest).trans (List.suffix_cons d _)).trans hsuffix
      exact h (hdots.trans hbehind.isInfix)
    rw [ih hrest, ← dottedBackward_dropWhile reversed, hd, dottedBackward,
      if_pos ⟨hdot, List.cons_ne_nil _ _⟩]
    congr 1
    rw [dottedBackward, if_neg fun h => hc h.1]
  | case2 reversed hd =>
    rw [← dottedBackward_dropWhile reversed]
    cases hdrop : reversed.dropWhile (· != Text.dot) with
    | nil => rfl
    | cons d rest =>
      cases rest with
      | nil => rw [dottedBackward, if_neg fun h => h.2 rfl, dottedBackward]
      | cons c rest => exact absurd hdrop (hd d c rest)

/-- A registry in which all names are ordinary follows the dots. -/
theorem followsDots_of_isOrdinary (h : ∀ l ∈ r.loggers, IsOrdinary l.name) : r.FollowsDots := by
  have hordinary : ∀ {a}, r.has a = true → IsOrdinary a := by
    intro a ha
    obtain ⟨l, hl, rfl⟩ := List.mem_map.mp (has_iff.mp ha)
    exact h l hl
  intro name hname
  have hadopts : (fun a => r.has a && r.adopts a name) = r.has := by
    funext a
    cases ha : r.has a with
    | false => rfl
    | true =>
      have hprefix : a.isPrefixOf rootName = false := by
        rw [← Bool.not_eq_true, List.isPrefixOf_iff_prefix]
        exact (hordinary ha).not_isPrefix
      rw [adopts, hprefix]
      rfl
  have hreversed : ¬[Text.dot, Text.dot] <:+: name.reverse := by
    intro hdots
    have hforward : [Text.dot, Text.dot] <:+: name := List.reverse_infix.mp hdots
    exact (hordinary hname).dots_apart hforward
  rw [parentName?, hadopts, ancestors, ancestorsBackward_eq hreversed, dottedAncestors]

end

end LenientText.Registry
