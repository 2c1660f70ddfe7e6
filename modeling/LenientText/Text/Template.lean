import LenientText.Text.Basic

/-!
# Templates with placeholders

A template is a text in which each occurrence of `%s`, found from left to right,
is a place for an argument. Places beyond the arguments stay as they are.
Arguments beyond the places follow the text as a bracketed list. Arguments are
never searched for placeholders, nor is the seam between an argument and the
template around it.
-/

namespace LenientText.Template

/-- The first code point of a placeholder, a percent sign. -/
abbrev mark : Nat := 0x25

/-- The second code point of a placeholder, a small letter s. -/
abbrev kind : Nat := 0x73

/-- A placeholder. -/
def placeholder : Text := [mark, kind]

/-- The bracketed list of arguments without a place. No argument, no list. -/
def surplus : List Text → Text
  | [] => []
  | a :: rest => .ofString " [" ++ Text.join (.ofString ", ") (a :: rest) ++ .ofString "]"

/-- A template with its first places filled by the arguments. -/
def fill : Text → List Text → Text
  | template, [] => template
  | c :: d :: rest, a :: args =>
    if c = mark ∧ d = kind then a ++ fill rest args
    else c :: fill (d :: rest) (a :: args)
  | [c], a :: args => c :: surplus (a :: args)
  | [], a :: args => surplus (a :: args)

/-- Where the first placeholder of a text stands, if there is one. -/
def place? : Text → Option Nat
  | c :: d :: rest => if c = mark ∧ d = kind then some 0 else (place? (d :: rest)).map (· + 1)
  | _ => none

/-- Where the first placeholder at a start or behind it stands, if there is one. -/
def placeFrom? (t : Text) (start : Nat) : Option Nat := (place? (t.drop start)).map (· + start)

/-- The parts of a template between its placeholders, always one more than there
are of these. -/
def pieces : Text → List Text
  | c :: d :: rest =>
    if c = mark ∧ d = kind then [] :: pieces rest
    else match pieces (d :: rest) with
      | [] => [[c]]
      | p :: ps => (c :: p) :: ps
  | [c] => [[c]]
  | [] => [[]]

/-- A template has a first piece. -/
theorem pieces_ne_nil (t : Text) : pieces t ≠ [] := by
  fun_cases pieces t <;> simp_all

/-- The number of places in a template. -/
def places (t : Text) : Nat := (pieces t).length - 1

/-- Pieces joined by arguments as long as both last, then by placeholders. -/
def weave : List Text → List Text → Text
  | [], _ => []
  | [p], _ => p
  | p :: q :: ps, [] => p ++ placeholder ++ weave (q :: ps) []
  | p :: q :: ps, a :: args => p ++ a ++ weave (q :: ps) args

/-- Pieces joined by placeholders make up the template. -/
theorem weave_pieces (t : Text) : weave (pieces t) [] = t := by
  fun_induction pieces t with
  | case1 c d rest h ih =>
    cases hp : pieces rest with
    | nil => exact absurd hp (pieces_ne_nil rest)
    | cons p ps =>
      rw [hp] at ih
      simp only [weave, placeholder, h.1, h.2, ih, List.nil_append, List.cons_append]
  | case2 c d rest h hnil => exact absurd hnil (pieces_ne_nil _)
  | case3 c d rest h p ps hp ih =>
    rw [hp] at ih
    rw [← ih]
    cases ps <;> simp only [weave, List.cons_append]
  | case4 c => rfl
  | case5 => rfl

end LenientText.Template
