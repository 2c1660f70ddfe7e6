import LenientText.Number.Integer
import LenientText.Object.Basic
import LenientText.Object.Mismatch
import LenientText.Text.Quoted
import LenientText.Text.Size

/-!
# Faults

A computation on objects ends with a value or with something raised: an exception
thrown by a hook, or a fault of this library's own rules. Each cause of a fault
is a constructor. Its class and its message are functions of the cause.
-/

namespace LenientText

/-- Why a computation of this library fails. -/
inductive Fault where
  /-- A required object is absent; the label tells which. -/
  | missing (label : Text)
  /-- A condition on the arguments does not hold. -/
  | rejected (message : Text)
  /-- A repeated text would be longer than any text. -/
  | oversize (length : Nat)
  /-- A padded or repeated text would be too long. -/
  | shortage (s : Shortage)
  /-- An integer has too many digits to be written. -/
  | unwritable
  /-- A text is no integer; the display form of it is given. -/
  | unreadable (cause : Integer.Unreadable) (shown : Text)
  /-- A hook that has to give a text, in the form asked for, gave an instance of
  the named class. -/
  | notText (asked : Form) (className : Text)
  /-- Containers are nested too deeply to be displayed. -/
  | tooDeep
  /-- An instance of the named class has no such attribute. -/
  | noAttribute (className spelling : Text)
  /-- The named class itself has no such attribute. -/
  | noClassAttribute (className spelling : Text)
  /-- An operation does not apply to the objects it met. -/
  | mismatch (m : Mismatch)
  /-- The answer to the question for a size is negative. -/
  | negativeSize (asked : Method)
  /-- The answer to the question for a size is greater than any length. -/
  | vastSize (asked : Method)
  /-- A loop of the operation has no end. -/
  | endless
  /-- Listing ended with the exception that means a regular end. -/
  | falseEnd
  /-- Instances of the named class have no items. -/
  | notListable (className : Text)
  /-- An object has more items than memory holds. -/
  | tooManyItems
  /-- What should be a version is not a text; the text of it is given. -/
  | notVersion (shown : Text)
  /-- What should be a dictionary is none; the display form of it is given. -/
  | notDictionary (shown : Text)
  /-- The interpreter is older than the named application admits. -/
  | oldInterpreter (application required active : Text)
  /-- No option has this name. -/
  | noOption (name : Text)
  /-- An argument does not fit its hint. -/
  | unsuitable
  /-- A result does not fit its hint. -/
  | unsuitableResult
deriving DecidableEq, Repr

namespace Fault

/-- The class of a fault. A violated hint has one of its own outside, and what does not end
has none. -/
def class? : Fault → Option KnownClass
  | .missing _ => some .missingError
  | .rejected _ => some .argumentError
  | .oversize _ => some .oversizeError
  | .shortage .beyondMemory => some .memoryError
  | .shortage _ => some .overflowError
  | .unwritable => some .valueError
  | .unreadable _ _ => some .valueError
  | .notText _ _ => some .typeError
  | .tooDeep => some .recursionError
  | .noAttribute _ _ => some .attributeError
  | .noClassAttribute _ _ => some .attributeError
  | .mismatch _ => some .typeError
  | .negativeSize _ => some .valueError
  | .vastSize _ => some .overflowError
  | .endless => none
  | .falseEnd => some .runtimeError
  | .notListable _ => some .typeError
  | .tooManyItems => some .memoryError
  | .notVersion _ => some .assertionError
  | .notDictionary _ => some .assertionError
  | .oldInterpreter _ _ _ => some .runtimeError
  | .noOption _ => some .keyError
  | .unsuitable => none
  | .unsuitableResult => none

/-- The class of a fault as an object. -/
def type (f : Fault) : Obj := .known (f.class?.getD .exception)

/-- How many bytes of a class name stand in a message about an attribute. -/
abbrev nameBytes : Nat := 50

/-- How many bytes of a class name stand in a message about a hook. -/
abbrev hookNameBytes : Nat := 200

/-- How many code points of a quoted text stand in a message about a numeral. -/
abbrev quotedLength : Nat := 200

/-- The message about too many digits, before its end. -/
def digitLimit : Text :=
  .ofString "Exceeds the limit (4300 digits) for integer string conversion"

/-- The advice at the end of a message about too many digits. -/
def digitAdvice : Text := .ofString "; use sys.set_int_max_str_digits() to increase the limit"

/-- The name of the operation that writes an object in a form. -/
def operation : Form → Text
  | .text => .ofString "__str__"
  | .display => .ofString "__repr__"

/-- The message about an integer that is no index. -/
def beyondIndex : Text := .ofString "cannot fit 'int' into an index-sized integer"

/-- The message of a fault. -/
def message : Fault → Text
  | .missing label => label ++ .ofString " is None."
  | .rejected message => message
  | .oversize length => .ofString "Required array size too large: " ++ Integer.decimal length
  | .shortage .beyondIndex => beyondIndex
  | .shortage .beyondRepetition => .ofString "repeated string is too long"
  | .shortage .beyondConcatenation => .ofString "strings are too large to concat"
  | .shortage .beyondMemory => []
  | .unwritable => digitLimit ++ digitAdvice
  | .unreadable .malformed shown =>
    .ofString "invalid literal for int() with base 10: " ++ shown.take quotedLength
  | .unreadable (.tooLong count) _ =>
    digitLimit ++ .ofString ": value has " ++ Integer.decimal count ++ .ofString " digits" ++
      digitAdvice
  | .notText asked className =>
    operation asked ++ .ofString " returned non-string (type " ++
      className.takeBytes hookNameBytes ++ .ofString ")"
  | .tooDeep => .ofString "maximum recursion depth exceeded while getting the repr of an object"
  | .noAttribute className a =>
    .ofString "'" ++ className.takeBytes nameBytes ++ .ofString "' object has no attribute '" ++
      a ++ .ofString "'"
  | .noClassAttribute className a =>
    .ofString "type object '" ++ className.takeBytes nameBytes ++
      .ofString "' has no attribute '" ++ a ++ .ofString "'"
  | .mismatch m => m.message
  | .negativeSize m => .ofString (m.spelling ++ "() should return >= 0")
  | .vastSize .sizeHint => .ofString "Python int too large to convert to C ssize_t"
  | .vastSize _ => beyondIndex
  | .endless => []
  | .falseEnd => .ofString "generator raised StopIteration"
  | .notListable className =>
    .ofString "'" ++ className.takeBytes hookNameBytes ++ .ofString "' object is not iterable"
  | .tooManyItems => []
  | .notVersion shown => .ofString "\"" ++ shown ++ .ofString "\" not a version string."
  | .notDictionary shown => .ofString "\"" ++ shown ++ .ofString "\" not a dictionary."
  | .oldInterpreter application required active =>
    application ++ .ofString " requires at least Python " ++ required ++
      .ofString ", but the active interpreter is only Python " ++ active ++
      .ofString ". We feel deep sadness for you."
  | .noOption name => Quoted.text name
  | .unsuitable => []
  | .unsuitableResult => []

end Fault

/-- What ends a computation without a value. -/
inductive Raised where
  /-- An exception that a hook threw. -/
  | thrown (exception : Obj)
  /-- A fault of this library. -/
  | fault (f : Fault)
deriving DecidableEq, Repr

/-- The class of what was raised. -/
def Raised.type (s : Store) : Raised → Obj
  | .thrown e => s.typeOf e
  | .fault f => f.type

/-- Whether the class of what was raised is a known class or descends from it. -/
def Raised.isA (s : Store) (r : Raised) (k : KnownClass) : Bool := s.derivesFrom (r.type s) k

/-- An ordinary exception can be recovered from. The others end the process. -/
def Raised.isOrdinary (s : Store) (r : Raised) : Bool := r.isA s .exception

/-- Every fault of this library is an ordinary exception. -/
theorem Raised.isOrdinary_fault (s : Store) (f : Fault) :
    (Raised.fault f).isOrdinary s = true := by
  have h : (f.class?.getD .exception).derivesFrom .exception = true := by
    unfold Fault.class?
    split <;> rfl
  rw [isOrdinary, isA, Raised.type, Fault.type, Store.derivesFrom_known]
  exact h

end LenientText
