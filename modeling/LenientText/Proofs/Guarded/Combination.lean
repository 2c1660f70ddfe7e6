import LenientText.Proofs.Guarded.Affixes
import LenientText.Proofs.Guarded.Results
import LenientText.Proofs.Text.Cut
import LenientText.Proofs.Text.Grouping

/-!
# Combining many texts

What two texts have in common is a text again, so the guarded operations can be applied
to their own results, which become objects on the way. Objects that are there keep their
texts while others are made. What any number of texts have in common at their starts, or
at their ends, depends on these texts only: not on their order, not on how they are put
together, and not on how often one of them is given.
-/

namespace LenientText

namespace Guarded

open Run

/-- What an operation makes of objects two at a time. Each of its results is made an object
for the next one. -/
def combined (operation : Obj → Obj → Run Text) : Grouping Obj → Run Obj
  | .single o => return o
  | .joined left right => do
    let a ← combined operation left
    let b ← combined operation right
    make .text (.text (← operation a b))

/-- Combining objects ends with an object that holds the text. -/
def Combines (operation : Obj → Obj → Run Text) (s : Session) (g : Grouping Obj) (t : Text) :
    Prop :=
  ∃ o u, (combined operation g).run s = (.ok o, u) ∧ u.store.IsText o t

/-- In a session an operation on texts is a meet: a text with itself gives the text, and
neither order nor grouping matters, of two texts, of three, or of any number of them. -/
structure IsMeet (operation : Obj → Obj → Run Text) (s : Session) : Prop where
  /-- A text with itself gives the text. -/
  self : ∀ {a : Obj} {x : Text}, s.store.IsText a x → (operation a a).run s = (.ok x, s)
  /-- Two texts give the same in either order. -/
  comm : ∀ {a b : Obj} {x y : Text}, s.store.IsText a x → s.store.IsText b y →
    ∃ t, (operation a b).run s = (.ok t, s) ∧ (operation b a).run s = (.ok t, s)
  /-- Three texts give the same in either grouping. -/
  assoc : ∀ {a b c : Obj} {x y z : Text}, s.store.IsText a x → s.store.IsText b y →
    s.store.IsText c z →
      ∃ t, Combines operation s (.joined (.joined (.single a) (.single b)) (.single c)) t ∧
        Combines operation s (.joined (.single a) (.joined (.single b) (.single c))) t
  /-- The same texts give the same in any order and grouping, however often each occurs. -/
  regroup : ∀ {g h : Grouping Obj}, (∀ o ∈ g.members, ∃ t, s.store.IsText o t) →
    (∀ o, o ∈ g.members ↔ o ∈ h.members) → ∃ t, Combines operation s g t ∧ Combines operation s h t

/-- On texts an operation gives a text that depends on them only, and has no effect. -/
def Computes (operation : Obj → Obj → Run Text) (result : Text → Text → Text) : Prop :=
  ∀ {s : Session} {a b : Obj} {x y : Text}, s.store.IsText a x → s.store.IsText b y →
    (operation a b).run s = (.ok (result x y), s)

section

variable {operation : Obj → Obj → Run Text} {result : Text → Text → Text}

/-- Texts are combined as objects the way they are combined as such, and objects that are
there keep their texts meanwhile. -/
theorem Computes.exists_run_combined (hop : Computes operation result) {textOf : Obj → Text}
    (g : Grouping Obj) {s : Session} (hg : ∀ o ∈ g.members, s.store.IsText o (textOf o)) :
    ∃ o u, (combined operation g).run s = (.ok o, u) ∧
      u.store.IsText o ((g.map textOf).combined result) ∧
      ∀ p t, s.store.IsText p t → u.store.IsText p t := by
  induction g generalizing s with
  | single o =>
    have ho := hg o (List.mem_singleton.mpr rfl)
    exact ⟨o, s, rfl, ho, fun _ _ h => h⟩
  | joined left right ihl ihr =>
    obtain ⟨a, u, hu, ha, hsu⟩ := ihl fun o ho => hg o (List.mem_append_left _ ho)
    obtain ⟨b, v, hv, hb, huv⟩ := ihr fun o ho => hsu o _ (hg o (List.mem_append_right _ ho))
    let made : Text :=
      result ((left.map textOf).combined result) ((right.map textOf).combined result)
    refine ⟨(v.store.add ⟨.known .text, .text made⟩).1,
      { v with store := (v.store.add ⟨.known .text, .text made⟩).2 }, ?_, ?_, ?_⟩
    · rw [combined, run_bind_of_ok hu, run_bind_of_ok hv, run_bind_of_ok (hop (huv _ _ ha) hb)]
      rfl
    · exact v.store.isText_add _
    · exact fun p t hp => (huv p t (hsu p t hp)).add made

/-- The same texts are combined to the same, if the texts below a result are those below
both operands. -/
theorem Computes.exists_combines {r : Text → Text → Prop} [IsPartialOrder Text r]
    (hop : Computes operation result)
    (hr : ∀ p x y, r p (result x y) ↔ r p x ∧ r p y) {s : Session} {g h : Grouping Obj}
    (hg : ∀ o ∈ g.members, ∃ t, s.store.IsText o t)
    (hsame : ∀ o, o ∈ g.members ↔ o ∈ h.members) :
    ∃ t, Combines operation s g t ∧ Combines operation s h t := by
  have htexts : ∀ o ∈ g.members, s.store.IsText o (s.store.plain (.object o)) := by
    intro o ho
    obtain ⟨t, ht⟩ := hg o ho
    rw [ht.plain_eq]
    exact ht
  obtain ⟨o, u, hu, ho, -⟩ := hop.exists_run_combined g htexts
  obtain ⟨p, v, hv, hp, -⟩ :=
    hop.exists_run_combined h fun o ho => htexts o ((hsame o).mpr ho)
  have heq := Grouping.combined_eq_of_members hr
    (g := g.map fun o => s.store.plain (.object o))
    (k := h.map fun o => s.store.plain (.object o)) (by
      intro t
      simp only [Grouping.members_map, List.mem_map, hsame])
  refine ⟨_, ⟨o, u, hu, ho⟩, p, v, hv, ?_⟩
  rw [heq]
  exact hp

/-- An operation whose results are greatest lower bounds is a meet. -/
theorem Computes.isMeet {r : Text → Text → Prop} [IsPartialOrder Text r]
    (hop : Computes operation result) (hr : ∀ p x y, r p (result x y) ↔ r p x ∧ r p y)
    (s : Session) : IsMeet operation s where
  self := by
    intro a x ha
    have hself : result x x = x := Grouping.combined_eq_of_members hr
      (g := .joined (.single x) (.single x)) (k := .single x) (by
        intro t
        simp only [Grouping.members, List.mem_append, or_self])
    rw [hop ha ha, hself]
  comm := by
    intro a b x y ha hb
    have hcomm : result x y = result y x := Grouping.combined_eq_of_members hr
      (g := .joined (.single x) (.single y)) (k := .joined (.single y) (.single x)) (by
        intro t
        simp only [Grouping.members, List.mem_append, or_comm])
    refine ⟨result x y, hop ha hb, ?_⟩
    rw [hop hb ha, hcomm]
  assoc := by
    intro a b c x y z ha hb hc
    refine hop.exists_combines hr ?_ ?_
    · intro o ho
      simp only [Grouping.members, List.mem_append, List.mem_singleton] at ho
      rcases ho with (rfl | rfl) | rfl
      · exact ⟨x, ha⟩
      · exact ⟨y, hb⟩
      · exact ⟨z, hc⟩
    · intro o
      simp only [Grouping.members, List.mem_append, or_assoc]
  regroup := hop.exists_combines hr

end

/-- Both operations on what two texts share are meets: the common start in the order of
whole starts, and the common end in that of whole ends. -/
theorem isMeet_commonAffixes {check : Checker} (hcheck : check.IsSound) (s : Session) :
    IsMeet (commonStart check) s ∧ IsMeet (commonEnd check) s := by
  have hstart : Computes (commonStart check) Text.commonStart := run_commonStart hcheck
  have hend : Computes (commonEnd check) Text.commonEnd := run_commonEnd hcheck
  exact ⟨hstart.isMeet Text.isWholeStart_commonStart_iff s,
    hend.isMeet Text.isWholeEnd_commonEnd_iff s⟩

/-- A session with three texts whose common start ends in a high surrogate, which leads a
pair in the third text only. -/
def forkedSession : Session :=
  { Session.start 0 with
    store := ⟨#[⟨.known .text, .text [0x61, 0xD83D, 0xD83D, 0xDE00]⟩,
      ⟨.known .text, .text [0x61, 0xD83D, 0xD83D]⟩,
      ⟨.known .text, .text [0x61, 0xD83D, 0xDE00]⟩]⟩ }

/-- Three texts put together from the left and from the right, and in the opposite order
with one of them given twice. -/
theorem isMeet_commonAffixes_forked :
    (∃ t, Combines (commonStart .strict) forkedSession
        (.joined (.joined (.single (.cell 0)) (.single (.cell 1))) (.single (.cell 2))) t ∧
      Combines (commonStart .strict) forkedSession
        (.joined (.single (.cell 0)) (.joined (.single (.cell 1)) (.single (.cell 2)))) t) ∧
    ∃ t, Combines (commonEnd .strict) forkedSession
        (.joined (.single (.cell 0)) (.single (.cell 2))) t ∧
      Combines (commonEnd .strict) forkedSession
        (.joined (.single (.cell 2)) (.joined (.single (.cell 0)) (.single (.cell 2)))) t := by
  have hx : forkedSession.store.IsText (.cell 0) [0x61, 0xD83D, 0xD83D, 0xDE00] :=
    Store.isText_of_entity rfl
  have hy : forkedSession.store.IsText (.cell 1) [0x61, 0xD83D, 0xD83D] :=
    Store.isText_of_entity rfl
  have hz : forkedSession.store.IsText (.cell 2) [0x61, 0xD83D, 0xDE00] :=
    Store.isText_of_entity rfl
  have h := isMeet_commonAffixes Checker.isSound_strict forkedSession
  refine ⟨h.1.assoc hx hy hz, h.2.regroup ?_ ?_⟩
  · intro o ho
    rcases List.mem_cons.mp ho with rfl | ho
    · exact ⟨_, hx⟩
    · exact ⟨_, (List.mem_singleton.mp ho) ▸ hz⟩
  · intro o
    simp only [Grouping.members, List.mem_append, List.mem_singleton]
    constructor
    · rintro (rfl | rfl)
      · exact .inr (.inl rfl)
      · exact .inl rfl
    · rintro (rfl | rfl | rfl)
      · exact .inr rfl
      · exact .inl rfl
      · exact .inr rfl

end Guarded

end LenientText
