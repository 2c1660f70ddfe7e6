import LenientText.Number.Numeral

/-!
# The shortest decimal that reads back

A finite binary floating-point number is an integer times a power of two. The
reals that round to it form an interval, half a step to either side, ends
included where the integer is even. Of the decimals in that interval those with
the fewest digits are wanted, and of these the one nearest to the number. All of
this is done on exact fractions of natural numbers.
-/

namespace LenientText.Shortest

/-- A positive binary number with its neighbours: the value is `significand`
times two to the `exponent`, and `atPower` says that the step below it is half
as wide as the one above. -/
structure Binary where
  /-- The integer part of the representation. -/
  significand : Nat
  /-- The power of two it is multiplied by. -/
  exponent : Int
  /-- Whether the number is the least one of its binade, so that the gap below is halved. -/
  atPower : Bool
deriving DecidableEq, Repr

/-- A positive decimal: `digits` times ten to the `exponent`. -/
structure Decimal where
  /-- The decimal digits as one natural number. -/
  digits : Nat
  /-- The power of ten they are multiplied by. -/
  exponent : Int
deriving DecidableEq, Repr

/-- A fraction of natural numbers. -/
structure Fraction where
  /-- The part above the line. -/
  numerator : Nat
  /-- The part below the line. -/
  denominator : Nat
deriving DecidableEq, Repr

/-- The order of two fractions, by products across. -/
def Fraction.le (a b : Fraction) : Bool := a.numerator * b.denominator ≤ b.numerator * a.denominator

/-- The strict order of two fractions. -/
def Fraction.lt (a b : Fraction) : Bool := a.numerator * b.denominator < b.numerator * a.denominator

/-- An integer scaled by a power of a base. -/
def scaled (n base : Nat) (e : Int) : Fraction :=
  match e with
  | .ofNat k => ⟨n * base.pow k, 1⟩
  | .negSucc k => ⟨n, base.pow (k + 1)⟩

/-- The exact value of a binary number. -/
def Binary.value (b : Binary) : Fraction := scaled b.significand 2 b.exponent

/-- The least real that may round to the number. -/
def Binary.lower (b : Binary) : Fraction :=
  scaled (4 * b.significand - (if b.atPower then 1 else 2)) 2 (b.exponent - 2)

/-- The greatest real that may round to the number. -/
def Binary.upper (b : Binary) : Fraction := scaled (4 * b.significand + 2) 2 (b.exponent - 2)

/-- Whether a fraction rounds to the number. -/
def Binary.covers (b : Binary) (x : Fraction) : Bool :=
  if b.significand % 2 = 0 then b.lower.le x && x.le b.upper
  else b.lower.lt x && x.lt b.upper

/-- The exact value of a decimal. -/
def Decimal.value (d : Decimal) : Fraction := scaled d.digits 10 d.exponent

/-- The power of ten of the leading digit of a positive fraction. -/
def leadingExponent (x : Fraction) : Int :=
  if x.denominator ≤ x.numerator then
    ((Numeral.digits 10 (x.numerator / x.denominator)).length : Int) - 1
  else
    -((Numeral.digits 10 ((x.denominator - 1) / x.numerator)).length : Int)

/-- The whole number of steps of ten to the `e` below a fraction. -/
def floorAt (x : Fraction) (e : Int) : Nat :=
  match e with
  | .ofNat k => x.numerator / (x.denominator * Nat.pow 10 k)
  | .negSucc k => x.numerator * Nat.pow 10 (k + 1) / x.denominator

/-- Whether the lower of two neighbours on a decimal grid is at least as near to
a fraction as the upper one. At equal distance the even one is nearer. -/
def lowerIsNearer (x : Fraction) (n : Nat) (e : Int) : Bool :=
  let middle := scaled (2 * n + 1) 10 e
  let twice : Fraction := ⟨2 * x.numerator, x.denominator⟩
  twice.lt middle || (twice.le middle && n % 2 == 0)

/-- The better neighbour of a number on the grid of ten to the `e`, if one rounds
back to it. -/
def onGrid (b : Binary) (e : Int) : Option Decimal :=
  let n := floorAt b.value e
  let below : Decimal := ⟨n, e⟩
  let above : Decimal := ⟨n + 1, e⟩
  match b.covers below.value, b.covers above.value with
  | true, true => some (if lowerIsNearer b.value n e then below else above)
  | true, false => some below
  | false, true => some above
  | false, false => none

/-- The first grid with a hit among those with the given numbers of digits. -/
def firstHit (b : Binary) (leading : Int) : List Nat → Option Decimal
  | [] => none
  | n :: more =>
    match onGrid b (leading - ((n : Int) - 1)) with
    | some d => some d
    | none => firstHit b leading more

/-- The shortest decimal that rounds to a positive binary number. Seventeen
digits are enough for significands of 53 bits. -/
def decimal (b : Binary) : Decimal :=
  (firstHit b (leadingExponent b.value) ((List.range 17).map (· + 1))).getD ⟨0, 0⟩

end LenientText.Shortest
