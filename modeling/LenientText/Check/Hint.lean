import LenientText.Object.Attribute
import LenientText.Object.Truth

/-!
# Hints of arguments and results

A hint names the kinds of object that an argument or a result is meant to be of. By its
real class an object is of a kind or not; what an object claims to be is for the check
to look at. Truth values count as integers, but nothing else counts as a truth value.
-/

namespace LenientText

/-- A kind of object that a hint may name. -/
inductive Kind where
  /-- The instances of a known class. -/
  | instances (c : KnownClass)
  /-- The texts with at least one code point. -/
  | nonemptyTexts
  /-- The lists, tuples, texts, bytes of either kind, ranges and views of memory. -/
  | sequences
deriving DecidableEq, Repr

namespace Kind

/-- Whether a kind is given by one class alone. -/
def isPlain : Kind → Bool
  | .instances _ => true
  | _ => false

/-- The classes that keep items in an order of their own. -/
def sequenceClasses : List KnownClass :=
  [.list, .tuple, .text, .bytes, .byteArray, .range, .memoryView]

/-- Whether an object is of a kind by its real class and by what it holds. -/
def isMetBy (s : Store) (o : Obj) : Kind → Bool
  | .instances c => s.isA o c
  | .nonemptyTexts => s.isA o .text && s.isTrue o
  | .sequences => sequenceClasses.any (s.isA o)

end Kind

/-- What an argument or a result may be. -/
inductive Hint where
  /-- A text. -/
  | text
  /-- A text or nothing. -/
  | textOrNull
  /-- A text with at least one code point. -/
  | nonemptyText
  /-- A text with at least one code point, or nothing. -/
  | nonemptyTextOrNull
  /-- An integer. -/
  | integer
  /-- A truth value. -/
  | boolean
  /-- A sequence or nothing. -/
  | sequenceOrNull
  /-- A logger or nothing. -/
  | loggerOrNull
deriving DecidableEq, Repr

namespace Hint

/-- The kinds that a hint names, in the order of naming. -/
def kinds : Hint → List Kind
  | .text => [.instances .text]
  | .textOrNull => [.instances .text, .instances .none]
  | .nonemptyText => [.nonemptyTexts]
  | .nonemptyTextOrNull => [.nonemptyTexts, .instances .none]
  | .integer => [.instances .integer]
  | .boolean => [.instances .boolean]
  | .sequenceOrNull => [.sequences, .instances .none]
  | .loggerOrNull => [.instances .logger, .instances .none]

/-- Whether a hint is about classes alone. -/
def isPlain (h : Hint) : Bool := h.kinds.all Kind.isPlain

/-- Whether an object is what a hint asks for, by its real class and by what it holds. -/
def isMetBy (s : Store) (o : Obj) (h : Hint) : Bool := h.kinds.any (Kind.isMetBy s o)

end Hint

end LenientText
