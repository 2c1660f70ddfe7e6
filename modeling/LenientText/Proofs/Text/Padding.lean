import LenientText.Text.Padding

/-!
# Completing a text twice

Padding puts the copies that a text lacks at one of its ends. Copies put at the same end
one after the other are put there at once, and a text that was completed to one length
lacks what is left to the greater one of two lengths. So completing a text to both
lengths, in either order, comes to completing it to the greater one. The two ends are
reversals of each other. Both the copies and the completed text have to be allotted, which
for the second length follows from what was allotted for the greater one.
-/

namespace LenientText.Text

/-- A text completed to a least length with copies of one code point, given how these are
joined to it. -/
def completion (join : Nat → Text → Text → Except Shortage Text) (capacity : Nat) (t : Text)
    (n : Int) (c : Nat) : Except Shortage Text := do
  join capacity (← filler capacity [c] (n - t.length)) t

/-- A text of some length is allotted together with so many code points more. Where either of
the two is empty, there is nothing to allot. -/
def IsAllotted (capacity length more : Nat) : Prop :=
  length = 0 ∨ more = 0 ∨ length + more ≤ maxLength ∧ length + more ≤ capacity

/-- A way of joining copies to a text. -/
structure IsJoining (join : Nat → Text → Text → Except Shortage Text)
    (put : Text → Text → Text) : Prop where
  /-- Copies are put to a text if both together are allotted. -/
  eq_ok_iff : ∀ {capacity u t v},
    join capacity u t = .ok v ↔ IsAllotted capacity t.length u.length ∧ put u t = v
  /-- Everything that is put stays. -/
  length_put : ∀ u t, (put u t).length = t.length + u.length
  /-- Putting nothing changes nothing. -/
  put_nil : ∀ t, put [] t = t
  /-- Copies are put one after the other as they are put at once. -/
  put_put : ∀ d e c t, put (copies e c) (put (copies d c) t) = put (copies (d + e) c) t

/-- Two texts are joined if both together are allotted. -/
theorem joined_eq_ok_iff {capacity : Nat} {t u v : Text} :
    joined capacity t u = .ok v ↔ IsAllotted capacity t.length u.length ∧ t ++ u = v := by
  have hempty : (t.isEmpty || u.isEmpty) = true ↔ t.length = 0 ∨ u.length = 0 := by
    rw [Bool.or_eq_true, List.isEmpty_iff_length_eq_zero, List.isEmpty_iff_length_eq_zero]
  unfold joined IsAllotted
  split
  · next h =>
    rw [hempty] at h
    rw [Except.ok.injEq]
    exact ⟨fun hv => ⟨by omega, hv⟩, fun hv => hv.2⟩
  next h =>
  rw [hempty] at h
  split
  · simp only [reduceCtorEq, false_iff, not_and]
    intro hallotted
    omega
  split
  · simp only [reduceCtorEq, false_iff, not_and]
    intro hallotted
    omega
  · rw [Except.ok.injEq]
    exact ⟨fun hv => ⟨by omega, hv⟩, fun hv => hv.2⟩

/-- Copies are joined to a text by standing before it. -/
theorem isJoining_before : IsJoining joined (fun u t => u ++ t) where
  eq_ok_iff := by
    intro capacity u t v
    rw [joined_eq_ok_iff, IsAllotted, IsAllotted, Nat.add_comm, or_left_comm]
  length_put := fun u t => by rw [List.length_append, Nat.add_comm]
  put_nil := List.nil_append
  put_put := by
    intro d e c t
    rw [← List.append_assoc, List.replicate_append_replicate, Nat.add_comm e d]

/-- They are joined to it by standing behind it as well. -/
theorem isJoining_behind :
    IsJoining (fun capacity u t => joined capacity t u) (fun u t => t ++ u) where
  eq_ok_iff := joined_eq_ok_iff
  length_put := fun u t => List.length_append
  put_nil := List.append_nil
  put_put := by
    intro d e c t
    rw [List.append_assoc, List.replicate_append_replicate]

/-- So many copies of a code point are there if their number is an index and memory holds
them. -/
theorem filler_eq_ok_iff {capacity : Nat} {c : Nat} {d : Int} {u : Text} :
    filler capacity [c] d = .ok u ↔
      (d.toNat ≤ maxLength ∧ d.toNat ≤ capacity) ∧ copies d.toNat c = u := by
  have hlength : List.length [c] * d.toNat = d.toNat := Nat.one_mul _
  have hcopies : (List.replicate d.toNat [c]).flatten = copies d.toNat c :=
    List.flatten_replicate_singleton
  unfold filler
  rw [hlength, hcopies]
  split
  · simp only [reduceCtorEq, false_iff, not_and]
    intro hfits
    omega
  split
  · simp only [reduceCtorEq, false_iff, not_and]
    intro hfits
    omega
  split
  · simp only [reduceCtorEq, false_iff, not_and]
    intro hfits
    omega
  · rw [Except.ok.injEq]
    exact ⟨fun hu => ⟨by omega, hu⟩, fun hu => hu.2⟩

/-- A number of copies beyond all indices is refused as such. -/
theorem filler_of_lt (capacity : Nat) (t : Text) {d : Int} (h : maxLength < d) :
    filler capacity t d = .error .beyondIndex := if_pos h

/-- What a text lacks is a difference of integers, unless it is long enough. -/
theorem lack_of_eq {t : Text} {n : Int} {d : Nat} (h : n - t.length = d) : lack t n = d := by
  rw [lack, h, Int.toNat_natCast]

/-- A text with all that it lacks to one length lacks the rest to the greater length. -/
theorem lack_max {t u : Text} {n m : Int} (h : u.length = t.length + lack t n) :
    lack t (max n m) = lack t n + lack u m := by
  unfold lack at h ⊢
  omega

namespace IsJoining

variable {join : Nat → Text → Text → Except Shortage Text} {put : Text → Text → Text}
  {capacity : Nat} {t u : Text} {n m : Int} {c : Nat}

/-- A text is completed if what it lacks is an index and memory holds it, and if the completed
text is allotted. It is then completed with that many copies. -/
theorem completion_eq_ok_iff (h : IsJoining join put) : completion join capacity t n c = .ok u ↔
    (lack t n ≤ maxLength ∧ lack t n ≤ capacity) ∧ IsAllotted capacity t.length (lack t n) ∧
      put (copies (lack t n) c) t = u := by
  unfold completion
  cases hfiller : filler capacity [c] (n - t.length) with
  | error e =>
    have hnone : ¬(lack t n ≤ maxLength ∧ lack t n ≤ capacity) := by
      intro hfits
      rw [filler_eq_ok_iff.mpr ⟨hfits, rfl⟩] at hfiller
      cases hfiller
    constructor
    · intro hu
      cases hu
    · exact fun hu => absurd hu.1 hnone
  | ok v =>
    obtain ⟨hfits, rfl⟩ := filler_eq_ok_iff.mp hfiller
    have hjoin : join capacity (copies (lack t n) c) t = .ok u ↔ _ := h.eq_ok_iff
    rw [List.length_replicate] at hjoin
    exact hjoin.trans ⟨fun hu => ⟨hfits, hu⟩, fun hu => hu.2⟩

/-- A text that is long enough stays as it is. -/
theorem completion_of_le (h : IsJoining join put) (hle : n ≤ t.length) :
    completion join capacity t n c = .ok t := by
  have hlack : lack t n = 0 := (lack_eq_zero_iff t n).mpr hle
  rw [h.completion_eq_ok_iff, hlack]
  exact ⟨⟨Nat.zero_le _, Nat.zero_le _⟩, .inr (.inl rfl), h.put_nil t⟩

/-- A text that can be completed to the greater of two lengths can be completed to the
one and then to the other, with the same result. -/
theorem exists_completion_of_max (h : IsJoining join put)
    (hmax : completion join capacity t (max n m) c = .ok u) :
    ∃ v, completion join capacity t n c = .ok v ∧ completion join capacity v m c = .ok u := by
  obtain ⟨⟨hindex, hroom⟩, hallotted, hu⟩ := h.completion_eq_ok_iff.mp hmax
  have hlength : (put (copies (lack t n) c) t).length = t.length + lack t n := by
    rw [h.length_put, List.length_replicate]
  have hlack : lack t (max n m) = lack t n + lack (put (copies (lack t n) c) t) m :=
    lack_max hlength
  unfold IsAllotted at hallotted
  rw [hlack, ← h.put_put] at hu
  refine ⟨put (copies (lack t n) c) t, h.completion_eq_ok_iff.mpr ⟨⟨by omega, by omega⟩, ?_, rfl⟩,
    h.completion_eq_ok_iff.mpr ⟨⟨by omega, by omega⟩, ?_, hu⟩⟩
  · unfold IsAllotted
    omega
  · unfold IsAllotted
    omega

end IsJoining

/-- Texts that are turned round are joined in the opposite order. -/
theorem joined_reverse (capacity : Nat) (t u : Text) :
    joined capacity t u = (joined capacity u.reverse t.reverse).map List.reverse := by
  unfold joined
  rw [List.length_reverse, List.length_reverse, List.isEmpty_reverse, List.isEmpty_reverse,
    Bool.or_comm, Nat.add_comm]
  split
  · simp only [Except.map, List.reverse_append, List.reverse_reverse]
  split
  · rfl
  split
  · rfl
  · simp only [Except.map, List.reverse_append, List.reverse_reverse]

/-- Completing a text behind is the reversal of completing its reversal before, where it
succeeds and where it does not. -/
theorem completion_behind_eq_reverse (capacity : Nat) (t : Text) (n : Int) (c : Nat) :
    completion (fun capacity u t => joined capacity t u) capacity t n c =
      (completion joined capacity t.reverse n c).map List.reverse := by
  unfold completion
  rw [List.length_reverse]
  cases hfiller : filler capacity [c] (n - t.length) with
  | error e => rfl
  | ok u =>
    obtain ⟨-, rfl⟩ := filler_eq_ok_iff.mp hfiller
    have hcopies := joined_reverse capacity t (copies (n - t.length).toNat c)
    rw [List.reverse_replicate] at hcopies
    exact hcopies

end LenientText.Text
