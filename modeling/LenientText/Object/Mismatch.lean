import LenientText.Number.Integer
import LenientText.Object.Basic
import LenientText.Text.Utf8

/-!
# Operations that do not apply

An object that is taken for what it is not meets operations that do not apply to
it. Each such operation is a constructor, with the names of the classes that its
message tells. All of them raise an exception of one class.
-/

namespace LenientText

/-- An order between two numbers that an operation asks for. -/
inductive Comparison where
  /-- The left number is at most the right one. -/
  | atMost
  /-- The left number is at least the right one. -/
  | atLeast
deriving DecidableEq, Repr

/-- The sign of an order. -/
def Comparison.sign : Comparison → String
  | .atMost => "<="
  | .atLeast => ">="

/-- An operation that does not apply to the objects it met. -/
inductive Mismatch where
  /-- The length of an instance of the named class. -/
  | length (className : Text)
  /-- The order between instances of the two named classes. -/
  | order (asked : Comparison) (left right : Text)
  /-- The code point of a text at an instance of the named class. -/
  | place (className : Text)
  /-- A part of an instance of the named class. -/
  | part (className : Text)
  /-- A part of a dictionary. -/
  | dictionaryPart
  /-- A text with an instance of the named class behind it. -/
  | behindText (className : Text)
  /-- A list or a tuple with an instance of another known class behind it. -/
  | behindItems (kind other : KnownClass)
  /-- Bytes that are an instance of the named class, with an instance of a known class
  behind them. -/
  | behindBytes (className : Text) (other : KnownClass)
  /-- Any other instance of the named class with an instance of a known class behind it. -/
  | behindOther (className : Text) (other : KnownClass)
  /-- Bytes split at a text. -/
  | bytesAtText
  /-- An operation of a class of bytes on a text. -/
  | onText (operation : String) (kind : KnownClass)
  /-- A search in a text without anything to search for. -/
  | emptySearch
  /-- The entries of no dictionary. -/
  | entriesOfNone
  /-- The ancestors of an object that is no class. -/
  | ancestors
  /-- The look-up of a logger by an object that is no text. -/
  | loggerName
  /-- An instance of the named class for the answer to a question for a size. -/
  | size (asked : Method) (className : Text)
  /-- An instance of the named class for the answer to a question for the truth. -/
  | truth (className : Text)
  /-- The code point of a text with another length than one. -/
  | codePoint (length : Nat)
  /-- The code point of an instance of the named class, which is no text. -/
  | codePointOf (className : Text)
  /-- An integer times an instance of the named class. -/
  | times (className : Text)
  /-- An instance of the named class less an integer. -/
  | minus (className : Text)
  /-- A text up to or from a place that is an instance of any other class than that of
  integers. -/
  | bound
  /-- The join of texts with an instance of the named class at a place. -/
  | member (place : Nat) (className : Text)
deriving DecidableEq, Repr

namespace Mismatch

/-- How many bytes of a class name stand in most of the messages. -/
abbrev nameBytes : Nat := 200

/-- How many bytes of a class name stand in a message about two objects. -/
abbrev pairBytes : Nat := 100

/-- How many bytes of a class name stand in a message about the join of texts. -/
abbrev memberBytes : Nat := 80

/-- A text between single quotes. -/
def quoted (t : Text) : Text := .ofString "'" ++ t ++ .ofString "'"

/-- The message about an operation that does not apply. -/
def message : Mismatch → Text
  | .length c =>
    .ofString "object of type " ++ quoted (c.takeBytes nameBytes) ++ .ofString " has no len()"
  | .order asked left right =>
    quoted (.ofString asked.sign) ++ .ofString " not supported between instances of " ++
      quoted (left.takeBytes pairBytes) ++ .ofString " and " ++ quoted (right.takeBytes pairBytes)
  | .place c => .ofString "string indices must be integers, not " ++ quoted (c.takeBytes nameBytes)
  | .part c => quoted (c.takeBytes nameBytes) ++ .ofString " object is not subscriptable"
  | .dictionaryPart => .ofString "unhashable type: 'slice'"
  | .behindText c =>
    .ofString "can only concatenate str (not \"" ++ c.takeBytes nameBytes ++ .ofString "\") to str"
  | .behindItems kind other =>
    .ofString
      ("can only concatenate " ++ kind.name ++ " (not \"" ++ other.name ++ "\") to " ++ kind.name)
  | .behindBytes c other =>
    .ofString ("can't concat " ++ other.name ++ " to ") ++ c.takeBytes pairBytes
  | .behindOther c other =>
    .ofString "unsupported operand type(s) for +: " ++ quoted (c.takeBytes pairBytes) ++
      .ofString (" and '" ++ other.name ++ "'")
  | .bytesAtText => .ofString "a bytes-like object is required, not 'str'"
  | .onText operation kind =>
    .ofString ("descriptor '" ++ operation ++ "' for '" ++ kind.name ++
      "' objects doesn't apply to a 'str' object")
  | .emptySearch => .ofString "rfind() takes at least 1 argument (0 given)"
  | .entriesOfNone => .ofString "unbound method dict.items() needs an argument"
  | .ancestors => .ofString "issubclass() arg 1 must be a class"
  | .loggerName => .ofString "A logger name must be a string"
  | .size .sizeHint c =>
    .ofString "__length_hint__ must be an integer, not " ++ c.takeBytes pairBytes
  | .size _ c =>
    quoted (c.takeBytes nameBytes) ++ .ofString " object cannot be interpreted as an integer"
  | .truth c => .ofString "__bool__ should return bool, returned " ++ c.takeBytes nameBytes
  | .codePoint n =>
    .ofString "ord() expected a character, but string of length " ++ Integer.decimal n ++
      .ofString " found"
  | .codePointOf c =>
    .ofString "ord() expected string of length 1, but " ++ c.takeBytes nameBytes ++
      .ofString " found"
  | .times c =>
    .ofString "unsupported operand type(s) for *: 'int' and " ++ quoted (c.takeBytes pairBytes)
  | .minus c =>
    .ofString "unsupported operand type(s) for -: " ++ quoted (c.takeBytes pairBytes) ++
      .ofString " and 'int'"
  | .bound =>
    .ofString "slice indices must be integers or None or have an __index__ method"
  | .member n c =>
    .ofString "sequence item " ++ Integer.decimal n ++
      .ofString ": expected str instance, " ++ c.takeBytes memberBytes ++ .ofString " found"

end Mismatch

end LenientText
