import LenientText.Proofs.Text.Reflection
import LenientText.Text.Segments
import LenientText.Text.Utf16
import Mathlib.Data.List.Induction

/-!
# Common starts and ends of encoded texts

Encoding two texts of scalar values and taking what their code units share gives
the encoding of what the texts share. The comparison of units may stop between the
halves of a pair. The half it has then found is given up, and this is exactly the
boundary at which the comparison of whole code points stops. Encoded texts are the
well-formed ones, so well-formed texts have a well-formed common start and end.
-/

namespace LenientText.Text

/-- A text of code units in which every surrogate belongs to a pair. -/
def IsWellFormed (t : Text) : Prop :=
  ∀ u ∈ unitsFromStart t, u.length = 2 ∨ ∃ c < supplementaryMin, isSurrogate c = false ∧ u = [c]

/-- A surrogate is high or low. -/
theorem isSurrogate_eq_false {c : Nat} :
    isSurrogate c = false ↔ isHigh c = false ∧ isLow c = false :=
  Bool.or_eq_false_iff

/-- A scalar value is its own code unit or has two, a high and a low surrogate, from
which it can be computed. -/
theorem codeUnits_cases {c : Nat} (hmax : c ≤ 0x10FFFF) :
    (c < supplementaryMin ∧ codeUnits c = [c]) ∨
      ∃ a b, codeUnits c = [a, b] ∧ isHigh a = true ∧ isLow b = true ∧
        c = supplementaryMin + (a - highMin) * 0x400 + (b - lowMin) := by
  rcases Nat.lt_or_ge c supplementaryMin with hc | hc
  · exact .inl ⟨hc, by rw [codeUnits, if_pos hc]⟩
  · refine .inr ⟨highMin + (c - supplementaryMin) / 0x400,
      lowMin + (c - supplementaryMin) % 0x400, ?_, ?_, ?_, ?_⟩
    · rw [codeUnits, if_neg (by omega)]
    · rw [isHigh_iff]
      simp only [highMin, supplementaryMin] at hc ⊢
      omega
    · rw [isLow_iff]
      simp only [lowMin, supplementaryMin] at hc ⊢
      omega
    · omega

/-- The code units of a scalar value do not end in a high surrogate. -/
theorem isHigh_getLast?_codeUnits {c : Nat} (hs : isSurrogate c = false) (hmax : c ≤ 0x10FFFF) :
    ∀ d ∈ (codeUnits c).getLast?, isHigh d = false := by
  intro d hd
  rcases codeUnits_cases hmax with ⟨-, hu⟩ | ⟨a, b, hu, -, hb, -⟩
  · rw [hu] at hd
    obtain rfl : c = d := Option.some.inj hd
    exact (isSurrogate_eq_false.mp hs).1
  · rw [hu] at hd
    obtain rfl : b = d := Option.some.inj hd
    exact not_isHigh_of_isLow hb

/-- The code units of a scalar value do not begin with a low surrogate. -/
theorem isLow_head?_codeUnits {c : Nat} (hs : isSurrogate c = false) (hmax : c ≤ 0x10FFFF) :
    ∀ d ∈ (codeUnits c).head?, isLow d = false := by
  intro d hd
  rcases codeUnits_cases hmax with ⟨-, hu⟩ | ⟨a, b, hu, ha, -, -⟩
  · rw [hu] at hd
    obtain rfl : c = d := Option.some.inj hd
    exact (isSurrogate_eq_false.mp hs).2
  · rw [hu] at hd
    obtain rfl : a = d := Option.some.inj hd
    exact not_isLow_of_isHigh ha

/-- The code units of different scalar values share no start that splits no pair. A
shared high surrogate is only half of what would have to agree. -/
theorem commonStart_codeUnits_of_ne {c d : Nat} (hc : isSurrogate c = false ∧ c ≤ 0x10FFFF)
    (hd : isSurrogate d = false ∧ d ≤ 0x10FFFF) (h : c ≠ d) (a b : Text) :
    commonStart (codeUnits c ++ a) (codeUnits d ++ b) = [] := by
  have hch := (isSurrogate_eq_false.mp hc.1).1
  have hdh := (isSurrogate_eq_false.mp hd.1).1
  rcases codeUnits_cases hc.2 with ⟨-, hu⟩ | ⟨p, q, hu, hp, hq, hcv⟩ <;>
    rcases codeUnits_cases hd.2 with ⟨-, hv⟩ | ⟨p', q', hv, hp', hq', hdv⟩ <;> rw [hu, hv]
  · exact commonStart_eq_nil_of_ne h a b
  · refine commonStart_eq_nil_of_ne (fun he => ?_) a (q' :: b)
    rw [he, hp'] at hch
    cases hch
  · refine commonStart_eq_nil_of_ne (fun he => ?_) (q :: a) b
    rw [← he, hp] at hdh
    cases hdh
  · by_cases he : p = p'
    · subst he
      exact commonStart_eq_nil_of_half hp hq (fun hqe => h (by rw [hcv, hdv, hqe])) a b
    · exact commonStart_eq_nil_of_ne he (q :: a) (q' :: b)

/-- The code units of different scalar values share no end that splits no pair. A
shared low surrogate is only half of what would have to agree. -/
theorem commonEnd_codeUnits_of_ne {c d : Nat} (hc : isSurrogate c = false ∧ c ≤ 0x10FFFF)
    (hd : isSurrogate d = false ∧ d ≤ 0x10FFFF) (h : c ≠ d) (a b : Text) :
    commonEnd (a ++ codeUnits c) (b ++ codeUnits d) = [] := by
  have hcl := (isSurrogate_eq_false.mp hc.1).2
  have hdl := (isSurrogate_eq_false.mp hd.1).2
  have hsplit : ∀ (t : Text) (p q : Nat), t ++ [p, q] = (t ++ [p]) ++ [q] :=
    fun t p q => (List.append_assoc t [p] [q]).symm
  rcases codeUnits_cases hc.2 with ⟨-, hu⟩ | ⟨p, q, hu, hp, hq, hcv⟩ <;>
    rcases codeUnits_cases hd.2 with ⟨-, hv⟩ | ⟨p', q', hv, hp', hq', hdv⟩ <;> rw [hu, hv]
  · exact commonEnd_eq_nil_of_ne h a b
  · rw [hsplit]
    refine commonEnd_eq_nil_of_ne (fun he => ?_) a (b ++ [p'])
    rw [he, hq'] at hcl
    cases hcl
  · rw [hsplit]
    refine commonEnd_eq_nil_of_ne (fun he => ?_) (a ++ [p]) b
    rw [← he, hq] at hdl
    cases hdl
  · by_cases he : q = q'
    · subst he
      exact commonEnd_eq_nil_of_half hp hq (fun hpe => h (by rw [hcv, hdv, hpe])) a b
    · rw [hsplit, hsplit]
      exact commonEnd_eq_nil_of_ne he (a ++ [p]) (b ++ [p'])

/-- A text of scalar values begins with one. -/
theorem isScalar_cons {c : Nat} {t : Text} :
    IsScalar (c :: t) ↔ (isSurrogate c = false ∧ c ≤ 0x10FFFF) ∧ IsScalar t :=
  List.forall_mem_cons

/-- A text of scalar values finishes with one. -/
theorem isScalar_concat {c : Nat} {t : Text} :
    IsScalar (t ++ [c]) ↔ IsScalar t ∧ isSurrogate c = false ∧ c ≤ 0x10FFFF := by
  simp only [IsScalar, List.forall_mem_append, List.forall_mem_singleton]

/-- What encoded texts share at their starts is the encoding of what the texts share. -/
theorem commonStart_utf16 {x y : Text} (hx : IsScalar x) (hy : IsScalar y) :
    commonStart (utf16 x) (utf16 y) = utf16 (commonStart x y) := by
  have hcons : ∀ (e : Nat) (t : Text), utf16 (e :: t) = codeUnits e ++ utf16 t := fun _ _ => rfl
  induction x generalizing y with
  | nil =>
    rw [commonStart_nil_left]
    exact commonStart_nil_left _
  | cons c x ih =>
    obtain ⟨hc, hxs⟩ := isScalar_cons.mp hx
    cases y with
    | nil =>
      rw [commonStart_nil_right]
      exact commonStart_nil_right _
    | cons d y =>
      obtain ⟨hd, hys⟩ := isScalar_cons.mp hy
      rw [hcons, hcons]
      by_cases h : c = d
      · subst h
        have hone : ∀ e ∈ [c].getLast?, isHigh e = false := by
          intro e he
          obtain rfl : c = e := Option.some.inj he
          exact (isSurrogate_eq_false.mp hc.1).1
        have hstart : commonStart (c :: x) (c :: y) = c :: commonStart x y :=
          commonStart_append hone x y
        rw [commonStart_append (isHigh_getLast?_codeUnits hc.1 hc.2), ih hxs hys, hstart, hcons]
      -- Different code points may still share a high half, which the scan backs off from.
      · rw [commonStart_codeUnits_of_ne hc hd h, commonStart_eq_nil_of_ne h]
        rfl

/-- What encoded texts share at their ends is the encoding of what the texts share. -/
theorem commonEnd_utf16 {x y : Text} (hx : IsScalar x) (hy : IsScalar y) :
    commonEnd (utf16 x) (utf16 y) = utf16 (commonEnd x y) := by
  have hunit : ∀ e : Nat, utf16 [e] = codeUnits e := fun e => List.append_nil _
  induction x using List.reverseRecOn generalizing y with
  | nil =>
    rw [commonEnd_nil_left]
    exact commonEnd_nil_left _
  | append_singleton x c ih =>
    obtain ⟨hxs, hc⟩ := isScalar_concat.mp hx
    rcases List.eq_nil_or_concat y with rfl | ⟨y, d, rfl⟩
    · rw [commonEnd_nil_right]
      exact commonEnd_nil_right _
    · rw [List.concat_eq_append] at hy ⊢
      obtain ⟨hys, hd⟩ := isScalar_concat.mp hy
      rw [utf16_append, utf16_append, hunit, hunit]
      by_cases h : c = d
      · subst h
        have hone : ∀ e ∈ [c].head?, isLow e = false := by
          intro e he
          obtain rfl : c = e := Option.some.inj he
          exact (isSurrogate_eq_false.mp hc.1).2
        rw [commonEnd_append (isLow_head?_codeUnits hc.1 hc.2), ih hxs hys,
          commonEnd_append hone, utf16_append, hunit]
      · rw [commonEnd_codeUnits_of_ne hc hd h, commonEnd_eq_nil_of_ne h]
        rfl

/-- The code units of a scalar value are the first unit of any text they begin. -/
theorem unitsFromStart_codeUnits {c : Nat} (hs : isSurrogate c = false) (hmax : c ≤ 0x10FFFF)
    (t : Text) : unitsFromStart (codeUnits c ++ t) = codeUnits c :: unitsFromStart t := by
  rcases codeUnits_cases hmax with ⟨-, hu⟩ | ⟨a, b, hu, ha, hb, -⟩
  · rw [hu]
    cases t with
    | nil => rfl
    | cons d t =>
      have hp : isPair c d = false := by
        rw [isPair, (isSurrogate_eq_false.mp hs).1, Bool.false_and]
      simp only [List.cons_append, List.nil_append, unitsFromStart, hp, Bool.false_eq_true,
        ↓reduceIte]
  · have hp : isPair a b = true := by rw [isPair, ha, hb, Bool.and_self]
    rw [hu]
    simp only [List.cons_append, List.nil_append, unitsFromStart, hp, ↓reduceIte]

/-- A pair is the encoding of a supplementary code point. -/
theorem exists_codeUnits_of_isPair {a b : Nat} (h : isPair a b = true) :
    ∃ c, isSurrogate c = false ∧ c ≤ 0x10FFFF ∧ codeUnits c = [a, b] := by
  obtain ⟨ha, hb⟩ := Bool.and_eq_true_iff.mp h
  rw [isHigh_iff] at ha
  rw [isLow_iff] at hb
  refine ⟨0x10000 + (a - 0xD800) * 0x400 + (b - 0xDC00), ?_, by omega, ?_⟩
  · rw [isSurrogate_eq_false, ← Bool.not_eq_true, ← Bool.not_eq_true, isHigh_iff, isLow_iff]
    omega
  · have hge : ¬0x10000 + (a - 0xD800) * 0x400 + (b - 0xDC00) < supplementaryMin := by
      simp only [supplementaryMin]
      omega
    simp only [codeUnits, if_neg hge, List.cons.injEq, and_true]
    simp only [highMin, lowMin, supplementaryMin]
    omega

/-- A unit of one code point in a well-formed text is the encoding of that code
point. -/
theorem codeUnits_of_unit {a : Nat}
    (h : [a].length = 2 ∨ ∃ c < supplementaryMin, isSurrogate c = false ∧ [a] = [c]) :
    isSurrogate a = false ∧ a ≤ 0x10FFFF ∧ codeUnits a = [a] := by
  rcases h with hlen | ⟨c, hc, hs, he⟩
  · cases hlen
  · obtain rfl : a = c := (List.cons.inj he).1
    refine ⟨hs, ?_, by rw [codeUnits, if_pos hc]⟩
    simp only [supplementaryMin] at hc
    omega

/-- Every well-formed text is the encoding of a text of scalar values, which is read
off its units. -/
theorem exists_utf16_of_isWellFormed {t : Text} (h : IsWellFormed t) :
    ∃ x, IsScalar x ∧ utf16 x = t := by
  unfold IsWellFormed at h
  fun_induction unitsFromStart t with
  | case1 a b rest hp ih =>
    obtain ⟨x, hx, hxt⟩ := ih fun u hu => h u (List.mem_cons_of_mem _ hu)
    obtain ⟨c, hs, hmax, hc⟩ := exists_codeUnits_of_isPair hp
    refine ⟨c :: x, isScalar_cons.mpr ⟨⟨hs, hmax⟩, hx⟩, ?_⟩
    change codeUnits c ++ utf16 x = _
    rw [hc, hxt]
    rfl
  | case2 a b rest hp ih =>
    obtain ⟨x, hx, hxt⟩ := ih fun u hu => h u (List.mem_cons_of_mem _ hu)
    obtain ⟨hs, hmax, hc⟩ := codeUnits_of_unit (h [a] List.mem_cons_self)
    refine ⟨a :: x, isScalar_cons.mpr ⟨⟨hs, hmax⟩, hx⟩, ?_⟩
    change codeUnits a ++ utf16 x = _
    rw [hc, hxt]
    rfl
  | case3 a =>
    obtain ⟨hs, hmax, hc⟩ := codeUnits_of_unit (h [a] List.mem_cons_self)
    refine ⟨[a], isScalar_cons.mpr ⟨⟨hs, hmax⟩, List.forall_mem_nil _⟩, ?_⟩
    change codeUnits a ++ [] = _
    rw [hc, List.append_nil]
  | case4 => exact ⟨[], List.forall_mem_nil _, rfl⟩

/-- Encoding a text of scalar values gives a well-formed text. -/
theorem isWellFormed_utf16 {x : Text} (hx : IsScalar x) : IsWellFormed (utf16 x) := by
  induction x with
  | nil => exact List.forall_mem_nil _
  | cons c x ih =>
    obtain ⟨⟨hs, hmax⟩, hxs⟩ := isScalar_cons.mp hx
    intro u hu
    change u ∈ unitsFromStart (codeUnits c ++ utf16 x) at hu
    rw [unitsFromStart_codeUnits hs hmax] at hu
    rcases List.mem_cons.mp hu with rfl | hu
    · rcases codeUnits_cases hmax with ⟨hlt, hc⟩ | ⟨a, b, hc, -⟩
      · exact .inr ⟨c, hlt, hs, hc⟩
      · exact .inl (by rw [hc]; rfl)
    · exact ih hxs u hu

/-- A common start of texts of scalar values is one. -/
theorem isScalar_commonStart {x y : Text} (hx : IsScalar x) : IsScalar (commonStart x y) :=
  fun c hc => hx c (List.mem_of_mem_take hc)

/-- A common end of texts of scalar values is one. -/
theorem isScalar_commonEnd {x y : Text} (hx : IsScalar x) : IsScalar (commonEnd x y) :=
  fun c hc => hx c (List.mem_of_mem_drop hc)

/-- Well-formed texts share a well-formed start. -/
theorem isWellFormed_commonStart {a b : Text} (ha : IsWellFormed a) (hb : IsWellFormed b) :
    IsWellFormed (commonStart a b) := by
  obtain ⟨x, hx, rfl⟩ := exists_utf16_of_isWellFormed ha
  obtain ⟨y, hy, rfl⟩ := exists_utf16_of_isWellFormed hb
  rw [commonStart_utf16 hx hy]
  exact isWellFormed_utf16 (isScalar_commonStart hx)

/-- Well-formed texts share a well-formed end. -/
theorem isWellFormed_commonEnd {a b : Text} (ha : IsWellFormed a) (hb : IsWellFormed b) :
    IsWellFormed (commonEnd a b) := by
  obtain ⟨x, hx, rfl⟩ := exists_utf16_of_isWellFormed ha
  obtain ⟨y, hy, rfl⟩ := exists_utf16_of_isWellFormed hb
  rw [commonEnd_utf16 hx hy]
  exact isWellFormed_utf16 (isScalar_commonEnd hx)

end LenientText.Text
