import LenientText.Number.Shortest

/-!
# The text of a floating-point number

Doubles are kept as their 64 bits. A finite double is written with the shortest
digits that read back: positionally while its decimal exponent is at least -4 and
below 16, with one digit before the point and an exponent of at least two digits
otherwise. A positional number always has a digit after the point. The sign of
zero is written; that of a number that is not one is not.
-/

namespace LenientText.Floating

/-- How shortest digits are laid out. -/
structure Layout where
  /-- The least decimal exponent that is written positionally. -/
  minPositional : Int
  /-- The first decimal exponent that is not. -/
  endPositional : Int
  /-- The mark before an exponent. -/
  mark : Text
  /-- The least number of digits of an exponent. -/
  exponentWidth : Nat
  /-- The text of infinity. -/
  infinity : Text
  /-- The text of what is not a number. -/
  notNumber : Text

/-- The layout of all floating-point texts. -/
def layout : Layout where
  minPositional := -4
  endPositional := 16
  mark := .ofString "e"
  exponentWidth := 2
  infinity := .ofString "inf"
  notNumber := .ofString "nan"

/-- Digits without the zeros at their end, and how many those were. -/
def dropZeros : List Nat → List Nat × Nat
  | ds => (ds.reverse.dropWhile (· == 0)).reverse |> fun kept => (kept, ds.length - kept.length)

/-- Digits laid out, where the first stands for the given power of ten. -/
def Layout.place (l : Layout) (ds : List Nat) (leading : Int) : Text :=
  let glyphs := ds.map Numeral.glyph
  let point := Text.point '.'
  let nought := Numeral.glyph 0
  if leading < l.minPositional ∨ l.endPositional ≤ leading then
    let fraction := glyphs.drop 1
    let size := Numeral.text 10 leading.natAbs
    glyphs.take 1 ++ (if fraction.isEmpty then [] else point :: fraction) ++ l.mark ++
      [if leading < 0 then Text.point '-' else Text.point '+'] ++
      Text.copies (l.exponentWidth - size.length) nought ++ size
  else if leading < 0 then
    [nought, point] ++ Text.copies (leading.natAbs - 1) nought ++ glyphs
  else
    let whole := leading.natAbs + 1
    let padded := glyphs ++ Text.copies (whole - glyphs.length) nought
    let fraction := padded.drop whole
    padded.take whole ++ [point] ++ (if fraction.isEmpty then [nought] else fraction)

/-- The text of a positive decimal. -/
def Layout.decimal (l : Layout) (d : Shortest.Decimal) : Text :=
  let all := Numeral.digits 10 d.digits
  l.place (dropZeros all).1 (d.exponent + ((all.length : Int) - 1))

/-- The sign bit of a double. -/
def isNegative (bits : UInt64) : Bool := 1 ≤ bits.toNat / 0x8000000000000000

/-- The exponent field of a double. -/
def exponentField (bits : UInt64) : Nat := bits.toNat / 0x10000000000000 % 0x800

/-- The fraction field of a double. -/
def fractionField (bits : UInt64) : Nat := bits.toNat % 0x10000000000000

/-- Whether a double is not a number. -/
def isNotNumber (bits : UInt64) : Bool := exponentField bits == 2047 && fractionField bits != 0

/-- Whether a double is infinite. -/
def isInfinite (bits : UInt64) : Bool := exponentField bits == 2047 && fractionField bits == 0

/-- Whether a double is zero, of either sign. -/
def isZero (bits : UInt64) : Bool := exponentField bits == 0 && fractionField bits == 0

/-- The magnitude of a finite double with its neighbours. -/
def magnitude (bits : UInt64) : Shortest.Binary :=
  let e := exponentField bits
  let f := fractionField bits
  if e = 0 then ⟨f, -1074, false⟩
  else ⟨0x10000000000000 + f, (e : Int) - 1075, f == 0 && 1 < e⟩

/-- The text of a double. -/
def text (bits : UInt64) : Text :=
  if isNotNumber bits then layout.notNumber
  else
    let sign := if isNegative bits then [Text.point '-'] else []
    sign ++
      if isInfinite bits then layout.infinity
      else if isZero bits then layout.place [0] 0
      else layout.decimal (Shortest.decimal (magnitude bits))

/-- The integer that a double equals, if there is one. -/
def integer? (bits : UInt64) : Option Int :=
  if isNotNumber bits || isInfinite bits then none
  else
    let v := (magnitude bits).value
    if v.numerator % v.denominator = 0 then
      let n : Int := (v.numerator / v.denominator : Nat)
      some (if isNegative bits then -n else n)
    else none

end LenientText.Floating
