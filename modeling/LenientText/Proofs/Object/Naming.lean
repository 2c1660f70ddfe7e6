import LenientText.Proofs.Object.Presentation

/-!
# Classes with plain names

A class has plain names if reading its module, its name and its qualified name gives
plain texts, through whatever hooks. Naming such a class succeeds and only calls
these hooks, and so does giving the identity form of its instances. All classes that
exist from the start have plain names.
-/

namespace LenientText

namespace Store

/-- Every call of a hook gives a plain text. -/
def GivesPlainTexts (s : Store) (script : Script) : Prop :=
  ∀ calls, ∃ o, script.after calls = .gives o ∧ s.IsPlainText o

/-- Every reading of the names of a class gives a plain text. -/
structure IsPlainlyNamed (s : Store) (c : Obj) : Prop where
  /-- It is a class. -/
  isClass : s.isClass c = true
  /-- Hooks of its own class that replace the reading of a name give plain texts. -/
  givesPlainTexts : ∀ {a owner script}, a ≠ .ownClass →
    s.attributeHook? (s.typeOf c) a = some (owner, script) → s.GivesPlainTexts script
  /-- The module, if there is one, is nothing or a plain text. -/
  isPlainName_module : ∀ {r}, s.plainReading? c .module = some r →
    r = .object .null ∨ s.IsPlainName r

/-- A known class and its ancestors have no hooks for reading attributes. -/
theorem attributeHook?_known (s : Store) (k : KnownClass) (a : Attribute) :
    s.attributeHook? (.known k) a = none :=
  s.findSome?_lineage_known k fun _ => rfl

/-- A known class is a class. -/
theorem isClass_known (s : Store) (k : KnownClass) : s.isClass (.known k) = true := by
  rw [isClass, isA, typeOf_known, derivesFrom_known]
  cases k <;> rfl

/-- A class that is an instance of the class of classes has plain names unless its module is
something else than a plain text. -/
theorem isPlainlyNamed_of_typeOf {s : Store} {c : Obj} (h : s.typeOf c = .known .type)
    (hmodule : ∀ {r}, s.plainReading? c .module = some r → r = .object .null ∨ s.IsPlainName r) :
    s.IsPlainlyNamed c where
  isClass := by
    rw [isClass, isA, h, derivesFrom_known]
    rfl
  givesPlainTexts := by
    intro a owner script _ hook
    rw [h, attributeHook?_known] at hook
    cases hook
  isPlainName_module := hmodule

/-- What a known class or an ancestor of it hands down is a text. -/
theorem exists_text_of_nearestModule?_known {s : Store} {k : KnownClass} {r : TextOrObj}
    (h : s.nearestModule? (s.lineage (.known k)) = some r) : ∃ t, r = .text t := by
  obtain ⟨c, hc, hr⟩ := List.exists_of_findSome?_eq_some h
  obtain ⟨d, -, rfl⟩ := List.mem_map.mp hc
  change (if d.handsDownModule = true then _ else none) = some r at hr
  split at hr
  · exact ⟨_, (Option.some.inj hr).symm⟩
  · cases hr

/-- The module of a known class is a text. -/
theorem exists_text_of_moduleOfClass?_known {s : Store} {k : KnownClass} {r : TextOrObj}
    (h : s.moduleOfClass? (.known k) = some r) : ∃ t, r = .text t := by
  unfold moduleOfClass? at h
  split at h
  · next m hm =>
    obtain ⟨t, rfl⟩ := exists_text_of_nearestModule?_known (k := k.metaclass) hm
    rw [isBarred, if_neg Bool.false_ne_true] at h
    cases hk : s.nearestModule? (s.lineage (.known k)) with
    | none =>
      rw [hk] at h
      exact ⟨t, (Option.some.inj h).symm⟩
    | some n =>
      rw [hk] at h
      obtain ⟨u, rfl⟩ := exists_text_of_nearestModule?_known hk
      exact ⟨u, (Option.some.inj h).symm⟩
  · exact ⟨_, (Option.some.inj h).symm⟩

/-- A class that exists from the start has plain names. -/
theorem isPlainlyNamed_known (s : Store) (k : KnownClass) : s.IsPlainlyNamed (.known k) where
  isClass := s.isClass_known k
  givesPlainTexts := by
    intro a owner script _ h
    rw [typeOf_known, attributeHook?_known] at h
    cases h
  isPlainName_module := by
    intro r h
    rw [plainReading?, if_pos (s.isClass_known k)] at h
    obtain ⟨t, rfl⟩ := exists_text_of_moduleOfClass?_known h
    exact .inr trivial

end Store

namespace Session

variable {s : Session} {c : Obj}

/-- A hook that gives plain texts is read as one of them. -/
theorem exists_readsText_of_hook {a : Attribute} {owner : Obj} {script : Script}
    (hook : s.store.attributeHook? (s.store.typeOf c) a = some (owner, script))
    (h : s.store.GivesPlainTexts script) : ∃ t, s.ReadsText c a t := by
  obtain ⟨o, ho, hplain⟩ := h (s.calls.count ⟨owner, .reading a⟩)
  have hreads : s.Reads c a (.object o) := by
    unfold Reads
    rw [hook]
    exact ⟨o, ho, rfl⟩
  exact ⟨_, _, hreads, hplain, rfl⟩

/-- A class with plain names presents something to those who name it. -/
theorem exists_presents_of_isPlainlyNamed (h : s.store.IsPlainlyNamed c) :
    ∃ p, s.Presents c p := by
  have hnames : ∀ a, a = .name ∨ a = .qualifiedName → ∃ t, s.ReadsText c a t := by
    intro a ha
    have hne : a ≠ .ownClass := by rcases ha with rfl | rfl <;> decide
    cases hook : s.store.attributeHook? (s.store.typeOf c) a with
    | some q => exact exists_readsText_of_hook hook (h.givesPlainTexts hne hook)
    | none =>
      have hreading : ∃ t, s.store.plainReading? c a = some (.text t) := by
        rcases ha with rfl | rfl
        · exact ⟨_, if_pos h.isClass⟩
        · exact ⟨_, if_pos h.isClass⟩
      obtain ⟨t, ht⟩ := hreading
      have hreads : s.Reads c a (.text t) := by
        unfold Reads
        rw [hook]
        exact ht
      exact ⟨t, _, hreads, trivial, rfl⟩
  have hmodule : (∃ m, s.ReadsText c .module m) ∨ s.LacksModule c := by
    cases hook : s.store.attributeHook? (s.store.typeOf c) .module with
    | some q => exact .inl (exists_readsText_of_hook hook (h.givesPlainTexts (by decide) hook))
    | none =>
      cases hreading : s.store.plainReading? c .module with
      | none => exact .inr (.inr ⟨hook, hreading⟩)
      | some r =>
        have hreads : s.Reads c .module r := by
          unfold Reads
          rw [hook]
          exact hreading
        rcases h.isPlainName_module hreading with rfl | hplain
        · exact .inr (.inl hreads)
        · exact .inl ⟨_, _, hreads, hplain, rfl⟩
  obtain ⟨q, hq⟩ := hnames .qualifiedName (.inr rfl)
  rcases hmodule with ⟨m, hm⟩ | hlacks
  · exact ⟨⟨some m, q⟩, h.isClass, hm, hnames .name (.inl rfl), hq⟩
  · exact ⟨⟨none, q⟩, h.isClass, hlacks, hnames .name (.inl rfl), hq⟩

end Session

namespace Run

open Session

/-- Giving the identity form of an object calls hooks and asks for an identity. -/
theorem within_identityText (o : Obj) : Within OnlyLooks (identityText o) := by
  have hidentity : Within OnlyLooks (identity o) := fun _ => ⟨[], _, by rw [List.append_nil]; rfl⟩
  refine within_store.bind fun s =>
    ((isInspection_qualifiedName _).within.mono OnlyCalls.onlyLooks).bind fun name =>
      (hidentity.bind fun n => within_pure _).bind fun number =>
        ((isInspection_inserted _).within.mono OnlyCalls.onlyLooks).bind fun _ => within_pure _

/-- What giving the identity form of an object raises was thrown by a hook or is a fault of
looking. -/
theorem raisesOnly_identityText (o : Obj) :
    RaisesOnly (fun e => e.isOfInspection = true) (identityText o) := by
  have hhex : RaisesOnly (fun e => e.isOfInspection = true) (identityHex o) :=
    raisesOnly_of_ok fun s => ⟨_, _, rfl⟩
  refine IsInspection.store.raisesOnly.bind fun s =>
    (isInspection_qualifiedName _).raisesOnly.bind fun name => hhex.bind fun number =>
      (isInspection_inserted _).raisesOnly.bind fun _ => raisesOnly_pure _

end Run

end LenientText
