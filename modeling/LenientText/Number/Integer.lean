import LenientText.Number.Numeral
import LenientText.Text.Blank
import LenientText.Text.DecimalDigit

/-!
# Integers in decimal

An integer is written with a minus sign where it is negative. Neither writing
nor reading handles more than 4300 digits: longer integers have no text, and
longer numerals no value. Reading admits blanks around the number, a sign, the
digits of every script, and single underscores between digits.
-/

namespace LenientText.Integer

/-- The greatest number of decimal digits that is written or read. -/
abbrev maxDigits : Nat := 4300

/-- The decimal text of an integer of any size. -/
def decimal (n : Int) : Text :=
  if n < 0 then 0x2d :: Numeral.text 10 n.natAbs else Numeral.text 10 n.natAbs

/-- Whether an integer has no more digits than are written. -/
def isWritable (n : Int) : Bool := n.natAbs < Nat.pow 10 maxDigits

/-- The text of an integer, if it has no more digits than are written. -/
def text? (n : Int) : Option Text := if isWritable n then some (decimal n) else none

/-- Why a text has no integer value. -/
inductive Unreadable where
  /-- The text is no numeral. -/
  | malformed
  /-- The numeral has too many digits, namely so many. -/
  | tooLong (count : Nat)
deriving DecidableEq, Repr

/-- Whether a code point may stand between the sign and the end of a numeral. -/
def isBody (c : Nat) : Bool := c == 0x5f || (Text.digitValue? c).isSome

/-- Whether underscores stand only singly and between digits, and a digit stands
at all. -/
def isWellJoined (body : Text) : Bool := (Text.parts 0x5f body).all fun p => !p.isEmpty

/-- The sign in front of a numeral, and what follows it. -/
def takeSign : Text → Bool × Text
  | c :: rest => if c = 0x2d then (true, rest) else if c = 0x2b then (false, rest)
    else (false, c :: rest)
  | [] => (false, [])

/-- The integer that a text denotes. Of a numeral that is both too long and
followed by something else the length is reported. -/
def read (t : Text) : Except Unreadable Int :=
  let (negative, unsigned) := takeSign (t.dropWhile Text.isBlank)
  let body := unsigned.takeWhile isBody
  let ds := body.filterMap Text.digitValue?
  if !isWellJoined body then .error .malformed
  else if maxDigits < ds.length then .error (.tooLong ds.length)
  else if !((unsigned.dropWhile isBody).all Text.isBlank) then .error .malformed
  else
    let n := Numeral.value 10 ds
    .ok (if negative then -(n : Int) else n)

end LenientText.Integer
