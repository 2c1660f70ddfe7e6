import LenientText.Logging.Registry
import Mathlib.Data.List.Nodup
import Mathlib.Order.Defs.Unbundled

/-!
# Registries that only grow

Asking for loggers changes a registry in one way: loggers are created that were not
there. One creation keeps the root and every logger, and what it adds is fresh and has a
name that no other logger has. Whatever composes and holds of one creation holds of any
number of them, one after the other.
-/

namespace LenientText.Registry

/-- Loggers of some names are asked for, one after the other, and nothing else happens. -/
def OnlyCreates (r r' : Registry) : Prop := ∃ names : List Text, r' = names.foldl ensure r

instance : IsPreorder Registry OnlyCreates where
  refl _ := ⟨[], rfl⟩
  trans := by
    rintro r _ _ ⟨names, rfl⟩ ⟨more, rfl⟩
    exact ⟨names ++ more, List.foldl_append.symm⟩

/-- A registry as every host has it. The root has its own name, and no other logger has a
name that means the root or the name of a further logger. -/
structure IsProper (r : Registry) : Prop where
  /-- The name of the root. -/
  root_name : r.root.name = rootName
  /-- No name is given twice. -/
  nodup_names : (r.loggers.map Logger.name).Nodup
  /-- No logger below the root has a name that means the root. -/
  isRoot_name : ∀ l ∈ r.loggers, isRoot l.name = false

/-- There is a logger of the name, the root or another one. -/
def IsThere (r : Registry) (name : Text) : Prop := isRoot name = true ∨ r.has name = true

variable {r r' : Registry} {name other : Text} {l : Logger}

/-- Of the names that are not empty, one means the root. -/
theorem isRoot_iff (h : name ≠ []) : isRoot name = true ↔ name = rootName := by
  rw [isRoot, List.isEmpty_eq_false_iff.mpr h, Bool.false_or, beq_iff_eq]

/-- A logger that is found has the name, and is one of those created. -/
theorem mem_of_find?_eq_some (h : r.find? name = some l) : l ∈ r.loggers ∧ l.name = name := by
  have hname : (l.name == name) = true := List.find?_some (p := fun k : Logger => k.name == name) h
  exact ⟨List.mem_of_find?_eq_some h, eq_of_beq hname⟩

/-- There is a logger of a name exactly if one of those created has the name. -/
theorem has_iff : r.has name = true ↔ name ∈ r.loggers.map Logger.name := by
  rw [has, find?, List.find?_isSome, List.mem_map]
  simp only [beq_iff_eq]

/-- The registry at the start is proper. -/
theorem isProper_initial : initial.IsProper where
  root_name := rfl
  nodup_names := List.nodup_nil
  isRoot_name := by
    intro l hl
    exact absurd hl List.not_mem_nil

/-- In a proper registry one logger has a name for which there is any. -/
theorem IsProper.existsUnique (h : r.IsProper) (hname : r.has name = true) :
    ∃! l, l ∈ r.loggers ∧ l.name = name := by
  obtain ⟨l, hl, hln⟩ := List.mem_map.mp (has_iff.mp hname)
  refine ⟨l, ⟨hl, hln⟩, ?_⟩
  rintro k ⟨hk, hkn⟩
  exact List.inj_on_of_nodup_map h.nodup_names hk hl (hkn.trans hln.symm)

/-- In a proper registry a logger that is there has the name under which it is found. -/
theorem IsProper.name_logger (h : r.IsProper) (hname : name ≠ []) (hthere : r.IsThere name) :
    (r.logger name).name = name := by
  unfold logger
  split
  · next hroot => rw [h.root_name, (isRoot_iff hname).mp hroot]
  · next hroot =>
    obtain ⟨l, hl⟩ := Option.isSome_iff_exists.mp (hthere.resolve_left hroot)
    rw [hl, Option.getD_some, (mem_of_find?_eq_some hl).2]

/-- After its creation a logger is there. -/
theorem isThere_ensure (r : Registry) (name : Text) : (r.ensure name).IsThere name := by
  by_cases hroot : isRoot name = true
  · exact .inl hroot
  · exact .inr (has_ensure (eq_false_of_ne_true hroot))

/-- A logger that is asked for has its name, unless it is the root. -/
theorem name_logger_ensure (r : Registry) (h : isRoot name = false) :
    ((r.ensure name).logger name).name = name := by
  obtain ⟨l, hl⟩ := Option.isSome_iff_exists.mp (has_ensure (r := r) h)
  rw [logger, h, if_neg Bool.false_ne_true, hl, Option.getD_some, (mem_of_find?_eq_some hl).2]

/-- The logger that is created last is fresh. -/
theorem loggers_ensure (r : Registry) (name : Text) :
    (r.ensure name).loggers = r.loggers ∨
      isRoot name = false ∧ r.has name = false ∧
        (r.ensure name).loggers = r.loggers ++ [.fresh name] := by
  unfold ensure
  split
  · exact .inl rfl
  · next hnew =>
    rw [Bool.or_eq_true, not_or] at hnew
    exact .inr ⟨eq_false_of_ne_true hnew.1, eq_false_of_ne_true hnew.2, rfl⟩

/-- A name that had no logger has none after a creation, or a fresh one. For every other
name nothing changes. -/
theorem find?_ensure (r : Registry) (name other : Text) :
    (r.ensure name).find? other = r.find? other ∨
      r.find? other = none ∧ (r.ensure name).find? other = some (.fresh other) := by
  cases hold : r.find? other with
  | some l => exact .inl (find?_ensure_of_some hold)
  | none =>
    rcases loggers_ensure r name with hsame | ⟨-, -, hnew⟩
    · refine .inl ?_
      rw [find?, hsame]
      exact hold
    · rw [find?] at hold
      rw [find?, hnew, List.find?_append, hold, Option.none_or, List.find?_singleton]
      by_cases hname : (name == other) = true
      · rw [← eq_of_beq hname]
        exact .inr ⟨rfl, if_pos (beq_self_eq_true name)⟩
      · exact .inl (if_neg hname)

/-- A creation keeps a registry proper. -/
theorem IsProper.ensure (h : r.IsProper) (name : Text) : (r.ensure name).IsProper := by
  have hroot := root_ensure r name
  rcases loggers_ensure r name with hsame | ⟨hmeans, hnone, hnew⟩
  · exact ⟨by rw [hroot]; exact h.root_name, by rw [hsame]; exact h.nodup_names,
      by rw [hsame]; exact h.isRoot_name⟩
  · have hnot : name ∉ r.loggers.map Logger.name := by
      rw [← has_iff, hnone]
      exact Bool.false_ne_true
    refine ⟨by rw [hroot]; exact h.root_name, ?_, ?_⟩
    · rw [hnew, List.map_append, List.nodup_append]
      refine ⟨h.nodup_names, List.nodup_singleton name, ?_⟩
      intro a hold b hadded hab
      have hb : b = name := List.mem_singleton.mp hadded
      rw [hab, hb] at hold
      exact hnot hold
    · rw [hnew]
      intro l hl
      rcases List.mem_append.mp hl with hold | hadded
      · exact h.isRoot_name l hold
      · rw [List.mem_singleton.mp hadded]
        exact hmeans

/-- A change of settings keeps a registry proper. -/
theorem IsProper.configure (h : r.IsProper) (name : Text) {f : Logger → Logger}
    (hf : ∀ l, (f l).name = l.name) : (r.configure name f).IsProper := by
  have hensured := h.ensure name
  unfold Registry.configure
  dsimp only
  split
  · exact ⟨(hf _).trans hensured.root_name, hensured.nodup_names, hensured.isRoot_name⟩
  · have hkeeps : ∀ l : Logger, (if l.name == name then f l else l).name = l.name := by
      intro l
      split
      · exact hf l
      · rfl
    have hnames : ((r.ensure name).loggers.map fun l => if l.name == name then f l else l).map
        Logger.name = (r.ensure name).loggers.map Logger.name := by
      rw [List.map_map]
      exact List.map_congr_left fun l _ => hkeeps l
    refine ⟨hensured.root_name, by rw [hnames]; exact hensured.nodup_names, ?_⟩
    intro l hl
    obtain ⟨k, hk, rfl⟩ := List.mem_map.mp hl
    rw [hkeeps]
    exact hensured.isRoot_name k hk

/-- The registries that a host comes to by asking for loggers and changing their
settings. -/
inductive IsReachable : Registry → Prop
  /-- The registry at the start. -/
  | initial : IsReachable .initial
  /-- A logger is asked for. -/
  | ensure {r : Registry} (h : IsReachable r) (name : Text) : IsReachable (r.ensure name)
  /-- The settings of a logger are changed, but not its name. -/
  | configure {r : Registry} (h : IsReachable r) (name : Text) {f : Logger → Logger}
    (hf : ∀ l, (f l).name = l.name) : IsReachable (r.configure name f)

/-- Every registry that is reached is proper. -/
theorem IsReachable.isProper (h : r.IsReachable) : r.IsProper := by
  induction h with
  | initial => exact isProper_initial
  | ensure _ name ih => exact ih.ensure name
  | configure _ name hf ih => exact ih.configure name hf

namespace OnlyCreates

/-- Asking for one logger only creates. -/
theorem ensure (r : Registry) (name : Text) : r.OnlyCreates (r.ensure name) := ⟨[name], rfl⟩

/-- Any number of creations keeps to what one creation keeps to, if that composes. -/
theorem of_step {P : Registry → Registry → Prop} (refl : ∀ r, P r r)
    (trans : ∀ {r₁ r₂ r₃}, P r₁ r₂ → P r₂ r₃ → P r₁ r₃)
    (step : ∀ r name, P r (Registry.ensure r name)) (h : r.OnlyCreates r') : P r r' := by
  obtain ⟨names, rfl⟩ := h
  induction names generalizing r with
  | nil => exact refl r
  | cons name names ih => exact trans (step r name) ih

/-- The root stays as it is. -/
theorem root_eq (h : r.OnlyCreates r') : r'.root = r.root :=
  h.of_step (P := fun r r' => r'.root = r.root) (fun _ => rfl)
    (fun hfirst hsecond => hsecond.trans hfirst) root_ensure

/-- What is created is fresh. -/
theorem exists_loggers_eq (h : r.OnlyCreates r') :
    ∃ created : List Text, r'.loggers = r.loggers ++ created.map Logger.fresh := by
  refine h.of_step (P := fun r r' => ∃ created : List Text,
    r'.loggers = r.loggers ++ created.map Logger.fresh) ?_ ?_ fun r name => ?_
  · intro r
    exact ⟨[], (List.append_nil _).symm⟩
  · rintro r₁ r₂ r₃ ⟨created, hfirst⟩ ⟨more, hsecond⟩
    refine ⟨created ++ more, ?_⟩
    rw [hsecond, hfirst, List.map_append, List.append_assoc]
  · rcases loggers_ensure r name with hsame | ⟨-, -, hnew⟩
    · exact ⟨[], hsame.trans (List.append_nil _).symm⟩
    · exact ⟨[name], hnew⟩

/-- The loggers that are there keep their places, before those that are created. -/
theorem loggers_isPrefix (h : r.OnlyCreates r') : r.loggers <+: r'.loggers := by
  obtain ⟨created, hloggers⟩ := h.exists_loggers_eq
  exact ⟨created.map Logger.fresh, hloggers.symm⟩

/-- A name that had no logger has none, or a fresh one. For every other name nothing
changes. -/
theorem find?_cases (h : r.OnlyCreates r') (name : Text) : r'.find? name = r.find? name ∨
    r.find? name = none ∧ r'.find? name = some (.fresh name) := by
  refine h.of_step (P := fun r r' => r'.find? name = r.find? name ∨
    r.find? name = none ∧ r'.find? name = some (.fresh name)) (fun _ => .inl rfl) ?_
    fun r created => find?_ensure r created name
  intro r₁ r₂ r₃ hfirst hsecond
  rcases hsecond with hsecond | ⟨hnone, hfresh⟩
  · rw [hsecond]
    exact hfirst
  · rcases hfirst with hfirst | ⟨-, hmiddle⟩
    · exact .inr ⟨hfirst.symm.trans hnone, hfresh⟩
    · rw [hmiddle] at hnone
      cases hnone

/-- A logger that is there keeps all its settings. -/
theorem find?_of_some (h : r.OnlyCreates r') (hl : r.find? name = some l) :
    r'.find? name = some l := by
  rcases h.find?_cases name with hsame | ⟨hnone, -⟩
  · exact hsame.trans hl
  · rw [hnone] at hl
    cases hl

/-- A logger that is there stays there. -/
theorem isThere (h : r.OnlyCreates r') (hname : r.IsThere name) : r'.IsThere name := by
  rcases hname with hroot | hhas
  · exact .inl hroot
  · obtain ⟨l, hl⟩ := Option.isSome_iff_exists.mp hhas
    exact .inr (Option.isSome_iff_exists.mpr ⟨l, h.find?_of_some hl⟩)

/-- A proper registry stays one. -/
theorem isProper (h : r.OnlyCreates r') (hr : r.IsProper) : r'.IsProper :=
  h.of_step (P := fun r r' => r.IsProper → r'.IsProper) (fun _ => id)
    (fun hfirst hsecond => hsecond ∘ hfirst) (fun _ name hr => hr.ensure name) hr

end OnlyCreates

end LenientText.Registry
