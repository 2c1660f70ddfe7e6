import LenientText.Text.Template

/-!
# Filling a template piece by piece

A template is cut at its placeholders in exactly one way, since two placeholders
never overlap and joining pieces by placeholders forms no further one. Filling it
puts an argument at each cut as long as there are arguments, keeps the other
placeholders, and appends the other arguments. The arguments themselves are not
looked at.
-/

namespace LenientText.Template

/-- Pieces without placeholders which, joined by placeholders, make up a template. -/
structure IsCut (t : Text) (ps : List Text) : Prop where
  /-- There is a first piece. -/
  ne_nil : ps ≠ []
  /-- No placeholder stands in a piece. -/
  not_infix : ∀ p ∈ ps, ¬placeholder <:+: p
  /-- The pieces make up the template. -/
  join_eq : Text.join placeholder ps = t

/-- Pieces and arguments by turns, as long as there are arguments with a place, then
the other pieces with their placeholders, then the other arguments in brackets. -/
def interleave (ps args : List Text) : Text :=
  let places := ps.length - 1
  let filled := min places args.length
  (List.zipWith (· ++ ·) (ps.take filled) (args.take filled)).flatten ++
    Text.join placeholder (ps.drop filled) ++
    if args.length ≤ places then []
    else .ofString " [" ++ Text.join (.ofString ", ") (args.drop places) ++ .ofString "]"

/-- A single piece needs no placeholder. -/
theorem join_singleton (separator p : Text) : Text.join separator [p] = p :=
  List.append_nil p

/-- The first piece is followed by a separator. -/
theorem join_cons_cons (separator p q : Text) (ps : List Text) :
    Text.join separator (p :: q :: ps) = p ++ separator ++ Text.join separator (q :: ps) := by
  simp only [Text.join, List.intersperse_cons_cons, List.flatten_cons, List.append_assoc]

/-- Pieces woven without arguments are joined by placeholders. -/
theorem weave_nil (ps : List Text) : weave ps [] = Text.join placeholder ps := by
  induction ps with
  | nil => rfl
  | cons p ps ih =>
    cases ps with
    | nil => rw [weave, join_singleton]
    | cons q ps => rw [weave, ih, join_cons_cons]

/-- Pieces joined by placeholders make up the template. -/
theorem join_pieces (t : Text) : Text.join placeholder (pieces t) = t := by
  rw [← weave_nil, weave_pieces]

/-- The text behind the first code point of a text without placeholders has none. -/
theorem not_infix_tail {c : Nat} {p : Text} (h : ¬placeholder <:+: c :: p) :
    ¬placeholder <:+: p :=
  fun hp => h (hp.trans (List.suffix_cons c p).isInfix)

/-- A text without placeholders does not begin with one. -/
theorem not_mark_kind {c d : Nat} {p : Text} (h : ¬placeholder <:+: c :: d :: p) :
    ¬(c = mark ∧ d = kind) := by
  rintro ⟨rfl, rfl⟩
  exact h (List.prefix_append placeholder p).isInfix

/-- A text without placeholders is its only piece. -/
theorem pieces_of_not_infix {p : Text} (h : ¬placeholder <:+: p) : pieces p = [p] := by
  induction p with
  | nil => rfl
  | cons c p ih =>
    cases p with
    | nil => rfl
    | cons d p => rw [pieces, if_neg (not_mark_kind h), ih (not_infix_tail h)]

/-- A text without placeholders that stands before one is a piece. A percent sign at
its end does not matter, because the placeholder begins with another one. -/
theorem pieces_append {p : Text} (h : ¬placeholder <:+: p) (t : Text) :
    pieces (p ++ placeholder ++ t) = p :: pieces t := by
  induction p with
  | nil =>
    change pieces (mark :: kind :: t) = _
    rw [pieces, if_pos ⟨rfl, rfl⟩]
  | cons c p ih =>
    have hrest := ih (not_infix_tail h)
    cases p with
    | nil =>
      change pieces (c :: mark :: kind :: t) = _
      -- Even if the piece ends in a percent sign, the next code point is another one.
      have hseam : ¬(c = mark ∧ mark = kind) := fun hc => absurd hc.2 (by decide)
      change pieces (mark :: kind :: t) = [] :: pieces t at hrest
      rw [pieces, if_neg hseam, hrest]
    | cons d p =>
      change pieces (c :: d :: (p ++ placeholder ++ t)) = _
      change pieces (d :: (p ++ placeholder ++ t)) = (d :: p) :: pieces t at hrest
      rw [pieces, if_neg (not_mark_kind h), hrest]

/-- There is no other cut of a template than the one into its pieces. -/
theorem IsCut.eq_pieces {t : Text} {ps : List Text} (h : IsCut t ps) : ps = pieces t := by
  rw [← h.join_eq]
  have hne := h.ne_nil
  have hfree := h.not_infix
  clear h
  induction ps with
  | nil => exact absurd rfl hne
  | cons p ps ih =>
    have hp := hfree p List.mem_cons_self
    cases ps with
    | nil => rw [join_singleton, pieces_of_not_infix hp]
    | cons q ps =>
      have hrest := ih (List.cons_ne_nil q ps) fun r hr => hfree r (List.mem_cons_of_mem p hr)
      rw [join_cons_cons, pieces_append hp, ← hrest]

/-- The first piece is empty or begins like the template. -/
theorem head?_of_pieces_cons {c : Nat} {t p : Text} {ps : List Text}
    (h : pieces (c :: t) = p :: ps) : ∀ d ∈ p.head?, d = c := by
  intro d hd
  have hjoin := join_pieces (c :: t)
  rw [h] at hjoin
  cases p with
  | nil => cases hd
  | cons e p =>
    obtain rfl : e = d := Option.some.inj hd
    cases ps with
    | nil =>
      rw [join_singleton] at hjoin
      exact (List.cons.inj hjoin).1
    | cons q ps =>
      rw [join_cons_cons] at hjoin
      exact (List.cons.inj hjoin).1

/-- No placeholder stands in a piece of a template. -/
theorem not_infix_of_mem_pieces {t p : Text} (h : p ∈ pieces t) : ¬placeholder <:+: p := by
  fun_induction pieces t generalizing p with
  | case1 c d rest _ ih =>
    rcases List.mem_cons.mp h with rfl | hp
    · exact fun hi => absurd (List.infix_nil.mp hi) (by decide)
    · exact ih hp
  | case2 c d rest _ hnil => exact absurd hnil (pieces_ne_nil _)
  | case3 c d rest hcd q qs hq ih =>
    rcases List.mem_cons.mp h with rfl | hp
    · intro hi
      rcases List.infix_cons_iff.mp hi with hstart | hin
      · obtain ⟨u, hu⟩ := hstart
        injection hu with hc hkind
        have hd : kind = d :=
          head?_of_pieces_cons hq kind (by rw [← hkind]; rfl)
        exact hcd ⟨hc.symm, hd.symm⟩
      · exact ih (hq ▸ List.mem_cons_self) hin
    · exact ih (hq ▸ List.mem_cons_of_mem q hp)
  | case4 c =>
    obtain rfl := List.mem_singleton.mp h
    exact fun hi => Nat.not_succ_le_self 1 hi.length_le
  | case5 =>
    obtain rfl := List.mem_singleton.mp h
    exact fun hi => Nat.not_succ_le_zero 1 hi.length_le

/-- The pieces of a template are a cut of it. -/
theorem isCut_pieces (t : Text) : IsCut t (pieces t) where
  ne_nil := pieces_ne_nil t
  not_infix := fun _ hp => not_infix_of_mem_pieces hp
  join_eq := join_pieces t

/-- A code point before the first piece stands before everything woven. -/
theorem weave_cons (c : Nat) (p : Text) (ps args : List Text) :
    weave ((c :: p) :: ps) args = c :: weave (p :: ps) args := by
  cases ps with
  | nil => rfl
  | cons q ps => cases args <;> rfl

/-- Filling weaves the pieces with the arguments and appends those without a place. -/
theorem fill_eq_weave (t : Text) (args : List Text) :
    fill t args = weave (pieces t) args ++ surplus (args.drop (places t)) := by
  fun_induction fill t args with
  | case1 t => rw [weave_pieces, List.drop_nil, surplus, List.append_nil]
  | case2 c d rest a args h ih =>
    obtain ⟨q, qs, hq⟩ := List.exists_cons_of_ne_nil (pieces_ne_nil rest)
    have hp : pieces (c :: d :: rest) = [] :: q :: qs := by rw [pieces, if_pos h, hq]
    simp only [places, hq, hp, List.length_cons, Nat.add_sub_cancel, weave, List.nil_append,
      List.drop_succ_cons, List.append_assoc] at ih ⊢
    rw [ih]
  | case3 c d rest a args h ih =>
    obtain ⟨q, qs, hq⟩ := List.exists_cons_of_ne_nil (pieces_ne_nil (d :: rest))
    have hp : pieces (c :: d :: rest) = (c :: q) :: qs := by rw [pieces, if_neg h, hq]
    simp only [places, hq, hp, List.length_cons, weave_cons, List.cons_append] at ih ⊢
    rw [ih]
  | case4 c a args => rfl
  | case5 a args => rfl

/-- Without arguments a template stays as it is. -/
theorem fill_nil (t : Text) : fill t [] = t := by
  cases t with
  | nil => rfl
  | cons c rest => cases rest <;> rfl

/-- Where a text has a placeholder, the first argument takes its place, and the others go on
behind it. Where there is none, all follow the text. -/
theorem fill_cons (t a : Text) (args : List Text) :
    fill t (a :: args) = match place? t with
      | some k => t.take k ++ a ++ fill (t.drop (k + 2)) args
      | none => t ++ surplus (a :: args) := by
  fun_induction place? t with
  | case1 c d rest h => rw [fill, if_pos h]; rfl
  | case2 c d rest h ih =>
    rw [fill, if_neg h, ih]
    cases place? (d :: rest) with
    | none => rfl
    | some k => rfl
  | case3 t hne =>
    match t, hne with
    | [], _ => rfl
    | [c], _ => rfl
    | c :: d :: rest, hne => exact absurd rfl (hne c d rest)

/-- Weaving in closed form. -/
theorem weave_eq_flatten (ps args : List Text) :
    weave ps args =
      (List.zipWith (· ++ ·) (ps.take (min (ps.length - 1) args.length))
        (args.take (min (ps.length - 1) args.length))).flatten ++
      Text.join placeholder (ps.drop (min (ps.length - 1) args.length)) := by
  induction args generalizing ps with
  | nil => rw [weave_nil, List.length_nil, Nat.min_zero]; rfl
  | cons a args ih =>
    match ps with
    | [] => rfl
    | [p] => exact (List.append_nil p).symm
    | p :: q :: ps =>
      have hmin : min ((p :: q :: ps).length - 1) (a :: args).length =
          min ((q :: ps).length - 1) args.length + 1 := by
        simp only [List.length_cons]
        omega
      rw [hmin, weave, ih]
      simp only [List.take_succ_cons, List.zipWith_cons_cons, List.flatten_cons,
        List.drop_succ_cons, List.append_assoc]

/-- Filling a template interleaves the pieces of any cut of it with the arguments. -/
theorem IsCut.fill_eq {t : Text} {ps : List Text} (h : IsCut t ps) (args : List Text) :
    fill t args = interleave ps args := by
  rw [fill_eq_weave, weave_eq_flatten, places, ← h.eq_pieces, interleave]
  congr 1
  split
  · next hle => rw [List.drop_eq_nil_of_le hle, surplus]
  · next hgt =>
    have hlen : 0 < (args.drop (ps.length - 1)).length := by
      rw [List.length_drop]
      omega
    obtain ⟨a, rest, ha⟩ := List.exists_cons_of_length_pos hlen
    rw [ha, surplus]

end LenientText.Template
