import Mathlib.Order.Defs.Unbundled

/-!
# Putting members together two at a time

A binary operation combines any number of members, in an order and a grouping that is the
shape of a tree. If the operation gives greatest lower bounds of a partial order, the
result is the greatest lower bound of all members, so order, grouping and repetition of
the members do not matter.
-/

namespace LenientText

/-- A way to put one or more members together two at a time. -/
inductive Grouping (α : Type) where
  /-- A member by itself. -/
  | single (a : α)
  /-- What two groups come to, put together. -/
  | joined (left right : Grouping α)

namespace Grouping

variable {α β : Type}

/-- The members from left to right. -/
def members : Grouping α → List α
  | .single a => [a]
  | .joined left right => left.members ++ right.members

/-- The same grouping of what the members are mapped to. -/
def map (f : α → β) : Grouping α → Grouping β
  | .single a => .single (f a)
  | .joined left right => .joined (left.map f) (right.map f)

/-- What an operation makes of the members. -/
def combined (operation : α → α → α) : Grouping α → α
  | .single a => a
  | .joined left right => operation (left.combined operation) (right.combined operation)

/-- The members of a mapped grouping are the mapped members. -/
theorem members_map (f : α → β) (g : Grouping α) : (g.map f).members = g.members.map f := by
  induction g with
  | single a => rfl
  | joined left right ihl ihr => rw [map, members, ihl, ihr, members, List.map_append]

section

variable {r : α → α → Prop} {operation : α → α → α}

/-- If the lower bounds of every result are those of both operands, the lower bounds of a
combination are those of all members. -/
theorem below_combined_iff (h : ∀ p a b, r p (operation a b) ↔ r p a ∧ r p b) (p : α)
    (g : Grouping α) : r p (g.combined operation) ↔ ∀ a ∈ g.members, r p a := by
  induction g with
  | single a => simp only [combined, members, List.mem_singleton, forall_eq]
  | joined left right ihl ihr =>
    rw [combined, h, ihl, ihr, members]
    simp only [List.mem_append, or_imp, forall_and]

/-- Combinations of the same members are equal, in whatever order and grouping, and however
often a member occurs. -/
theorem combined_eq_of_members [IsPartialOrder α r]
    (h : ∀ p a b, r p (operation a b) ↔ r p a ∧ r p b) {g k : Grouping α}
    (hsame : ∀ a, a ∈ g.members ↔ a ∈ k.members) :
    g.combined operation = k.combined operation := by
  have hiff : ∀ p, r p (g.combined operation) ↔ r p (k.combined operation) := by
    intro p
    rw [below_combined_iff h, below_combined_iff h]
    simp only [hsame]
  exact antisymm ((hiff _).mp (refl _)) ((hiff _).mpr (refl _))

end

end Grouping

end LenientText
