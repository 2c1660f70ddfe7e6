import LenientText.Lenient.Filling
import LenientText.Proofs.Object.Answer
import LenientText.Proofs.Object.Locality
import LenientText.Proofs.Object.Writing
import LenientText.Proofs.Text.Template

/-!
# Filling a template is filling its text

A template is cut plainly if no class answers for where its places are or for what its parts
are. Filling it has no effect then, and gives the text that filling what it holds gives,
however many arguments there are. Of a template whose class answers for one of them, nothing
of the kind can be said: filling it only calls hooks and raises what these throw or what
comes of their answers.
-/

namespace LenientText

/-- No class answers for where the places of a template are, or for what its parts are. -/
def Store.CutsPlainly (s : Store) : TextOrObj → Prop
  | .text _ => True
  | .object o => s.method? (s.typeOf o) .find = none ∧ s.method? (s.typeOf o) .part = none

/-- What is taken plainly is cut plainly. -/
theorem Store.IsTakenPlainly.cutsPlainly {s : Store} {o : Obj} (h : s.IsTakenPlainly o) :
    s.CutsPlainly (.object o) := ⟨h .find, h .part⟩

namespace Run

section

variable {s : Session} {template : TextOrObj}

/-- A part of a template that is cut plainly is that of its text. -/
theorem run_partOf_of_cutsPlainly (h : s.store.CutsPlainly template) (start : Int)
    (stop? : Option Int) : (partOf template (some start) (stop?.map .index)).run s =
      (.ok (.text ((s.store.plain template).slice start stop?)), s) := by
  cases template with
  | text t => cases stop? <;> rfl
  | object o =>
    refine (run_bind_of_ok (run_askAs_of_eq_none _ h.2)).trans ?_
    cases stop? <;> rfl

/-- A place of a template that is cut plainly is one of its text. -/
theorem run_findPlace_of_cutsPlainly (h : s.store.CutsPlainly template) (start : Nat) :
    (findPlace template (some start)).run s =
      (.ok ((Template.placeFrom? (s.store.plain template) start).map fun n : Nat => .index n),
        s) := by
  cases template with
  | text t => rfl
  | object o => exact run_bind_of_ok (run_askAs_of_eq_none _ h.1)

/-- The parts of a template that is cut plainly make up the filled text. -/
theorem exists_run_partsFrom (h : s.store.CutsPlainly template) (start : Nat)
    (arguments : List Text) : ∃ parts : List Text,
      (partsFrom template (some start) arguments).run s = (.ok (parts.map .text), s) ∧
        parts.flatten = Template.fill ((s.store.plain template).drop start) arguments := by
  have hrest : ∀ start : Nat, (partOf template (some start) none).run s =
      (.ok (.text ((s.store.plain template).drop start)), s) := by
    intro start
    have hpart := run_partOf_of_cutsPlainly h start none
    rw [Text.slice_natCast_none] at hpart
    exact hpart
  induction arguments generalizing start with
  | nil =>
    refine ⟨[(s.store.plain template).drop start], run_bind_of_ok (hrest start), ?_⟩
    rw [Template.fill_nil, List.flatten_singleton]
  | cons a arguments ih =>
    rw [partsFrom, run_bind_of_ok (run_findPlace_of_cutsPlainly h start), Template.fill_cons]
    cases hplace : Template.place? ((s.store.plain template).drop start) with
    | none =>
      refine ⟨[(s.store.plain template).drop start, .ofString " [",
        Text.join (.ofString ", ") (a :: arguments), .ofString "]"], ?_, ?_⟩
      · rw [Template.placeFrom?, hplace]
        exact run_bind_of_ok (hrest start)
      · simp only [Template.surplus, List.flatten_cons, List.flatten_nil, List.append_nil,
          List.append_assoc]
    | some k =>
      obtain ⟨parts, hparts, hflat⟩ := ih (k + start + 2)
      refine ⟨((s.store.plain template).drop start).take k :: a :: parts, ?_, ?_⟩
      · have hpart : (partOf template (some start) (some (.index (k + start : Nat)))).run s =
            (.ok (.text (((s.store.plain template).drop start).take k)), s) := by
          have hslice := run_partOf_of_cutsPlainly h start (some (k + start : Nat))
          rw [Text.slice_natCast, List.drop_take, Nat.add_sub_cancel] at hslice
          exact hslice
        rw [Template.placeFrom?, hplace]
        exact (run_bind_of_ok hpart).trans (run_bind_of_ok hparts)
      · dsimp only
        rw [List.flatten_cons, List.flatten_cons, hflat, List.drop_drop, List.append_assoc,
          Nat.add_right_comm, Nat.add_comm start]

/-- Texts are joined without any effect. -/
theorem run_joinedFrom_map_text (n : Nat) (parts : List Text) (s : Session) :
    (joinedFrom n (parts.map .text)).run s = (.ok parts.flatten, s) := by
  induction parts generalizing n with
  | nil => rfl
  | cons t parts ih =>
    rw [List.map_cons, joinedFrom, run_bind_of_ok (ih (n + 1))]
    rfl

/-- A template that is cut plainly is filled as the text that it holds. -/
theorem run_filled_of_cutsPlainly (h : s.store.CutsPlainly template) (arguments : List Text) :
    (filled template arguments).run s =
      (.ok (Template.fill (s.store.plain template) arguments), s) := by
  obtain ⟨parts, hparts, hflat⟩ := exists_run_partsFrom h 0 arguments
  have hjoined := run_joinedFrom_map_text 0 parts s
  rw [hflat, List.drop_zero] at hjoined
  exact (run_bind_of_ok hparts).trans hjoined

end

/-- Taking an answer for a place is an inspection. -/
theorem isInspection_cutFrom (answer : Obj) : IsInspection (cutFrom answer) := by
  refine (isInspection_equals _ _).bind fun isNowhere => ?_
  split
  · exact .pure none
  · refine IsInspection.store.bind fun s => ?_
    split <;> exact .pure _

/-- So is taking a start for an index. -/
theorem isInspection_startFrom (start? : Option Int) : IsInspection (startFrom start?) := by
  cases start? with
  | none => exact .fail rfl
  | some start => exact .pure start

/-- So is taking a place for an end. -/
theorem isInspection_stopFrom (stop? : Option Cut) : IsInspection (stopFrom stop?) := by
  unfold stopFrom
  split
  · exact .pure none
  · exact .pure none
  · exact .pure _
  · exact .fail rfl

/-- Going on behind a place is an inspection. -/
theorem isInspection_behindCut (place : Cut) : IsInspection (behindCut place) := by
  cases place with
  | index n => exact .pure _
  | answer o =>
    refine IsInspection.store.bind fun s => ?_
    split
    · exact .pure none
    · refine .fail ?_
      unfold Pretence.sum
      split <;> rfl

/-- Looking for a place is an inspection. -/
theorem isInspection_findPlace (template : TextOrObj) (start? : Option Int) :
    IsInspection (findPlace template start?) := by
  have hown : IsInspection (do
      let start ← startFrom start?
      return (Template.placeFrom? ((← store).plain template) start.toNat).map
        fun n : Nat => Cut.index n) :=
    (isInspection_startFrom start?).bind fun start => IsInspection.store.bind fun s => .pure _
  cases template with
  | text t => exact hown
  | object o =>
    refine (IsInspection.askAs _ o .find).bind fun answer? => ?_
    split
    · exact isInspection_cutFrom _
    · exact hown

/-- Cutting out a part is an inspection. -/
theorem isInspection_partOf (template : TextOrObj) (start? : Option Int) (stop? : Option Cut) :
    IsInspection (partOf template start? stop?) := by
  have hown : IsInspection (do
      let start ← startFrom start?
      let stop? ← stopFrom stop?
      return TextOrObj.text (((← store).plain template).slice start stop?)) :=
    (isInspection_startFrom start?).bind fun start => (isInspection_stopFrom stop?).bind
      fun stop? => IsInspection.store.bind fun s => .pure _
  cases template with
  | text t => exact hown
  | object o =>
    refine (IsInspection.askAs _ o .part).bind fun answer? => ?_
    split
    · exact .pure _
    · exact hown

/-- Filling a template is an inspection. -/
theorem isInspection_filled (template : TextOrObj) (arguments : List Text) :
    IsInspection (filled template arguments) := by
  have hparts : ∀ start?, IsInspection (partsFrom template start? arguments) := by
    induction arguments with
    | nil => exact fun start? => (isInspection_partOf _ _ _).bind fun part => .pure _
    | cons a arguments ih =>
      intro start?
      refine (isInspection_findPlace _ _).bind fun place? => ?_
      split
      · exact (isInspection_partOf _ _ _).bind fun part => (isInspection_behindCut _).bind
          fun next? => (ih next?).bind fun parts => .pure _
      · exact (isInspection_partOf _ _ _).bind fun part => .pure _
  have hjoined : ∀ n parts, IsInspection (joinedFrom n parts) := by
    intro n parts
    induction parts generalizing n with
    | nil => exact .pure []
    | cons part parts ih =>
      cases part with
      | text t => exact (ih _).bind fun _ => .pure _
      | object o =>
        refine IsInspection.store.bind fun s => ?_
        split
        · exact (ih _).bind fun _ => .pure _
        · exact .fail rfl
  exact (hparts (some 0)).bind (hjoined 0)

section

open Overlap

variable {c : Coupling} {template : TextOrObj}

/-- What a class answered for a place is known. -/
def KnowsCut (c : Coupling) : Cut → Prop
  | .index _ => True
  | .answer o => c.known o

/-- Taking a known answer for a place agrees. -/
theorem agrees_cutFrom {answer : Obj} (h : c.known answer) :
    Agrees c (fun place? => ∀ place, place? = some place → KnowsCut c place) (cutFrom answer) := by
  refine (agrees_equals h (by rw [content_eq h])).bind fun isNowhere _ => ?_
  split
  · exact agrees_pure fun place hplace => by cases hplace
  · refine agrees_store_bind ?_ ?_
    · rw [integer?_eq h]
    · split
      · exact agrees_pure fun place hplace => by cases hplace; trivial
      · exact agrees_pure fun place hplace => by cases hplace; exact h

/-- Taking a start for an index agrees. -/
theorem agrees_startFrom (start? : Option Int) : Agrees c (fun _ => True) (startFrom start?) := by
  cases start? with
  | none => exact agrees_fail _
  | some start => exact agrees_pure trivial

/-- Taking a place for an end agrees. -/
theorem agrees_stopFrom (stop? : Option Cut) : Agrees c (fun _ => True) (stopFrom stop?) := by
  unfold stopFrom
  split
  · exact agrees_pure trivial
  · exact agrees_pure trivial
  · exact agrees_pure trivial
  · exact agrees_fail _

/-- Going on behind a known place agrees. -/
theorem agrees_behindCut {place : Cut} (h : KnowsCut c place) :
    Agrees c (fun _ => True) (behindCut place) := by
  cases place with
  | index n => exact agrees_pure trivial
  | answer o =>
    refine agrees_store_bind ?_ ?_
    · rw [content_eq h, Pretence.sum, Pretence.sum, content_eq h, typeName_eq h]
    · split
      · exact agrees_pure trivial
      · exact agrees_fail _

/-- Looking for a place in something known agrees. -/
theorem agrees_findPlace (h : c.KnowsEither template) (start? : Option Int) :
    Agrees c (fun place? => ∀ place, place? = some place → KnowsCut c place)
      (findPlace template start?) := by
  have hown : Agrees c (fun place? => ∀ place, place? = some place → KnowsCut c place) (do
      let start ← startFrom start?
      return (Template.placeFrom? ((← store).plain template) start.toNat).map
        fun n : Nat => Cut.index n) := by
    refine (agrees_startFrom start?).bind fun start _ => agrees_store_bind ?_ ?_
    · rw [plain_eq h]
    · refine agrees_pure fun place hplace => ?_
      obtain ⟨n, -, rfl⟩ := Option.map_eq_some_iff.mp hplace
      trivial
  cases template with
  | text t => exact hown
  | object o =>
    refine (agrees_askAs _ h .find).bind fun answer? hanswer => ?_
    split
    · next answer => exact agrees_cutFrom (hanswer answer rfl)
    · exact hown

/-- Cutting a part out of something known agrees. -/
theorem agrees_partOf (h : c.KnowsEither template) (start? : Option Int) (stop? : Option Cut) :
    Agrees c c.KnowsEither (partOf template start? stop?) := by
  have hown : Agrees c c.KnowsEither (do
      let start ← startFrom start?
      let stop? ← stopFrom stop?
      return TextOrObj.text (((← store).plain template).slice start stop?)) := by
    refine (agrees_startFrom start?).bind fun start _ => (agrees_stopFrom stop?).bind
      fun stop? _ => agrees_store_bind ?_ (agrees_pure trivial)
    rw [plain_eq h]
  cases template with
  | text t => exact hown
  | object o =>
    refine (agrees_askAs _ h .part).bind fun answer? hanswer => ?_
    split
    · next answer => exact agrees_pure (hanswer answer rfl)
    · exact hown

/-- Cutting all of something known agrees. -/
theorem agrees_partsFrom (h : c.KnowsEither template) (start? : Option Int)
    (arguments : List Text) : Agrees c (fun parts => ∀ part ∈ parts, c.KnowsEither part)
      (partsFrom template start? arguments) := by
  induction arguments generalizing start? with
  | nil =>
    refine (agrees_partOf h start? none).bind fun part hpart => agrees_pure ?_
    simpa only [List.mem_singleton, forall_eq] using hpart
  | cons a arguments ih =>
    refine (agrees_findPlace h start?).bind fun place? hplace => ?_
    split
    · next place =>
      refine (agrees_partOf h start? _).bind fun part hpart =>
        (agrees_behindCut (hplace place rfl)).bind fun next? _ =>
          (ih next?).bind fun parts hparts => agrees_pure ?_
      simpa only [List.forall_mem_cons] using ⟨hpart, trivial, hparts⟩
    · refine (agrees_partOf h start? none).bind fun part hpart => agrees_pure ?_
      simpa only [List.forall_mem_cons, List.not_mem_nil, false_implies, implies_true, and_true]
        using ⟨hpart, trivial, trivial, trivial⟩

/-- Joining known parts agrees. -/
theorem agrees_joinedFrom (n : Nat) {parts : List TextOrObj}
    (h : ∀ part ∈ parts, c.KnowsEither part) : Agrees c (fun _ => True) (joinedFrom n parts) := by
  induction parts generalizing n with
  | nil => exact agrees_pure trivial
  | cons part parts ih =>
    obtain ⟨hpart, hparts⟩ := List.forall_mem_cons.mp h
    cases part with
    | text t => exact (ih _ hparts).bind fun _ _ => agrees_pure trivial
    | object o =>
      refine agrees_store_bind ?_ ?_
      · rw [text?_eq hpart, typeName_eq hpart]
      · split
        · exact (ih _ hparts).bind fun _ _ => agrees_pure trivial
        · exact agrees_fail _

/-- Filling a known template agrees. -/
theorem agrees_filled (h : c.KnowsEither template) (arguments : List Text) :
    Agrees c (fun _ => True) (filled template arguments) :=
  (agrees_partsFrom h (some 0) arguments).bind fun _ hparts => agrees_joinedFrom 0 hparts

end

end Run

end LenientText
