import LenientText.Text.Basic

/-!
# The classes that exist before any other

These classes are there at the start of every session: those of the plain values,
the hierarchy of exceptions, the four exceptions this library raises, and the
classes of loggers. Each has a name, a module and a list of ancestors, nearest
first, which is the order in which behaviour is looked up.
-/

namespace LenientText

/-- A class that exists from the start. -/
inductive KnownClass where
  | object | type | none | boolean | integer | floating | complex | text | bytes | byteArray
  | memoryView | list | tuple | set | frozenSet | dictionary | range | slice | property
  | classMethod | staticMethod | superior | enumeration | filtered | mapped | zipped | reversal
  | baseException | baseExceptionGroup | exceptionGroup | exception | arithmeticError
  | floatingPointError | overflowError | zeroDivisionError | assertionError | attributeError
  | bufferError | eofError | importError | moduleNotFoundError | lookupError | indexError
  | keyError | memoryError | nameError | unboundLocalError | osError | blockingError
  | childProcessError | connectionError | brokenPipeError | connectionAbortedError
  | connectionRefusedError | connectionResetError | fileExistsError | fileNotFoundError
  | interruptedError | isDirectoryError | notDirectoryError | permissionError
  | processLookupError | timeoutError | referenceError | runtimeError | notImplementedError
  | recursionError | stopAsyncIteration | stopIteration | syntaxError | indentationError
  | tabError | systemError | typeError | valueError | unicodeError | unicodeDecodeError
  | unicodeEncodeError | unicodeTranslateError | warning | bytesWarning | deprecationWarning
  | encodingWarning | futureWarning | importWarning | pendingDeprecationWarning | resourceWarning
  | runtimeWarning | syntaxWarning | unicodeWarning | userWarning | generatorExit
  | keyboardInterrupt | systemExit | libraryError | argumentError | missingError | oversizeError
  | abstractMeta | logger | rootLogger
deriving DecidableEq, Repr

namespace KnownClass

/-- The name of a known class. -/
def name : KnownClass → String
  | .object => "object"
  | .type => "type"
  | .none => "NoneType"
  | .boolean => "bool"
  | .integer => "int"
  | .floating => "float"
  | .complex => "complex"
  | .text => "str"
  | .bytes => "bytes"
  | .byteArray => "bytearray"
  | .memoryView => "memoryview"
  | .list => "list"
  | .tuple => "tuple"
  | .set => "set"
  | .frozenSet => "frozenset"
  | .dictionary => "dict"
  | .range => "range"
  | .slice => "slice"
  | .property => "property"
  | .classMethod => "classmethod"
  | .staticMethod => "staticmethod"
  | .superior => "super"
  | .enumeration => "enumerate"
  | .filtered => "filter"
  | .mapped => "map"
  | .zipped => "zip"
  | .reversal => "reversed"
  | .baseException => "BaseException"
  | .baseExceptionGroup => "BaseExceptionGroup"
  | .exceptionGroup => "ExceptionGroup"
  | .exception => "Exception"
  | .arithmeticError => "ArithmeticError"
  | .floatingPointError => "FloatingPointError"
  | .overflowError => "OverflowError"
  | .zeroDivisionError => "ZeroDivisionError"
  | .assertionError => "AssertionError"
  | .attributeError => "AttributeError"
  | .bufferError => "BufferError"
  | .eofError => "EOFError"
  | .importError => "ImportError"
  | .moduleNotFoundError => "ModuleNotFoundError"
  | .lookupError => "LookupError"
  | .indexError => "IndexError"
  | .keyError => "KeyError"
  | .memoryError => "MemoryError"
  | .nameError => "NameError"
  | .unboundLocalError => "UnboundLocalError"
  | .osError => "OSError"
  | .blockingError => "BlockingIOError"
  | .childProcessError => "ChildProcessError"
  | .connectionError => "ConnectionError"
  | .brokenPipeError => "BrokenPipeError"
  | .connectionAbortedError => "ConnectionAbortedError"
  | .connectionRefusedError => "ConnectionRefusedError"
  | .connectionResetError => "ConnectionResetError"
  | .fileExistsError => "FileExistsError"
  | .fileNotFoundError => "FileNotFoundError"
  | .interruptedError => "InterruptedError"
  | .isDirectoryError => "IsADirectoryError"
  | .notDirectoryError => "NotADirectoryError"
  | .permissionError => "PermissionError"
  | .processLookupError => "ProcessLookupError"
  | .timeoutError => "TimeoutError"
  | .referenceError => "ReferenceError"
  | .runtimeError => "RuntimeError"
  | .notImplementedError => "NotImplementedError"
  | .recursionError => "RecursionError"
  | .stopAsyncIteration => "StopAsyncIteration"
  | .stopIteration => "StopIteration"
  | .syntaxError => "SyntaxError"
  | .indentationError => "IndentationError"
  | .tabError => "TabError"
  | .systemError => "SystemError"
  | .typeError => "TypeError"
  | .valueError => "ValueError"
  | .unicodeError => "UnicodeError"
  | .unicodeDecodeError => "UnicodeDecodeError"
  | .unicodeEncodeError => "UnicodeEncodeError"
  | .unicodeTranslateError => "UnicodeTranslateError"
  | .warning => "Warning"
  | .bytesWarning => "BytesWarning"
  | .deprecationWarning => "DeprecationWarning"
  | .encodingWarning => "EncodingWarning"
  | .futureWarning => "FutureWarning"
  | .importWarning => "ImportWarning"
  | .pendingDeprecationWarning => "PendingDeprecationWarning"
  | .resourceWarning => "ResourceWarning"
  | .runtimeWarning => "RuntimeWarning"
  | .syntaxWarning => "SyntaxWarning"
  | .unicodeWarning => "UnicodeWarning"
  | .userWarning => "UserWarning"
  | .generatorExit => "GeneratorExit"
  | .keyboardInterrupt => "KeyboardInterrupt"
  | .systemExit => "SystemExit"
  | .libraryError => "TextkitException"
  | .argumentError => "TextkitParamException"
  | .missingError => "TextkitNoneException"
  | .oversizeError => "TextkitSizeException"
  | .abstractMeta => "ABCMeta"
  | .logger => "Logger"
  | .rootLogger => "RootLogger"

/-- All known classes. -/
def all : List KnownClass := [
  .object, .type, .none, .boolean, .integer, .floating, .complex, .text, .bytes, .byteArray,
  .memoryView, .list, .tuple, .set, .frozenSet, .dictionary, .range, .slice, .property,
  .classMethod, .staticMethod, .superior, .enumeration, .filtered, .mapped, .zipped, .reversal,
  .baseException, .baseExceptionGroup, .exceptionGroup, .exception, .arithmeticError,
  .floatingPointError, .overflowError, .zeroDivisionError, .assertionError, .attributeError,
  .bufferError, .eofError, .importError, .moduleNotFoundError, .lookupError, .indexError,
  .keyError, .memoryError, .nameError, .unboundLocalError, .osError, .blockingError,
  .childProcessError, .connectionError, .brokenPipeError, .connectionAbortedError,
  .connectionRefusedError, .connectionResetError, .fileExistsError, .fileNotFoundError,
  .interruptedError, .isDirectoryError, .notDirectoryError, .permissionError,
  .processLookupError, .timeoutError, .referenceError, .runtimeError, .notImplementedError,
  .recursionError, .stopAsyncIteration, .stopIteration, .syntaxError, .indentationError,
  .tabError, .systemError, .typeError, .valueError, .unicodeError, .unicodeDecodeError,
  .unicodeEncodeError, .unicodeTranslateError, .warning, .bytesWarning, .deprecationWarning,
  .encodingWarning, .futureWarning, .importWarning, .pendingDeprecationWarning, .resourceWarning,
  .runtimeWarning, .syntaxWarning, .unicodeWarning, .userWarning, .generatorExit,
  .keyboardInterrupt, .systemExit, .libraryError, .argumentError, .missingError, .oversizeError,
  .abstractMeta, .logger, .rootLogger]

/-- The class of a name. Two older names of the class of system errors mean that
class. -/
def ofName? (name : String) : Option KnownClass :=
  if name = "IOError" ∨ name = "EnvironmentError" then some .osError
  else all.find? fun c => c.name == name

/-- The ancestors of a known class, nearest first. -/
def ancestors : KnownClass → List KnownClass
  | .object =>
    []
  | .type | .none | .integer | .floating | .complex | .text | .bytes | .byteArray | .memoryView
  | .list | .tuple | .set | .frozenSet | .dictionary | .range | .slice | .property | .classMethod
  | .staticMethod | .superior | .enumeration | .filtered | .mapped | .zipped | .reversal
  | .baseException | .logger =>
    [.object]
  | .boolean =>
    [.integer, .object]
  | .baseExceptionGroup | .exception | .generatorExit | .keyboardInterrupt | .systemExit =>
    [.baseException, .object]
  | .exceptionGroup =>
    [.baseExceptionGroup, .exception, .baseException, .object]
  | .arithmeticError | .assertionError | .attributeError | .bufferError | .eofError
  | .importError | .lookupError | .memoryError | .nameError | .osError | .referenceError
  | .runtimeError | .stopAsyncIteration | .stopIteration | .syntaxError | .systemError
  | .typeError | .valueError | .warning | .libraryError =>
    [.exception, .baseException, .object]
  | .floatingPointError | .overflowError | .zeroDivisionError =>
    [.arithmeticError, .exception, .baseException, .object]
  | .moduleNotFoundError =>
    [.importError, .exception, .baseException, .object]
  | .indexError | .keyError =>
    [.lookupError, .exception, .baseException, .object]
  | .unboundLocalError =>
    [.nameError, .exception, .baseException, .object]
  | .blockingError | .childProcessError | .connectionError | .fileExistsError
  | .fileNotFoundError | .interruptedError | .isDirectoryError | .notDirectoryError
  | .permissionError | .processLookupError | .timeoutError =>
    [.osError, .exception, .baseException, .object]
  | .brokenPipeError | .connectionAbortedError | .connectionRefusedError | .connectionResetError =>
    [.connectionError, .osError, .exception, .baseException, .object]
  | .notImplementedError | .recursionError =>
    [.runtimeError, .exception, .baseException, .object]
  | .indentationError =>
    [.syntaxError, .exception, .baseException, .object]
  | .tabError =>
    [.indentationError, .syntaxError, .exception, .baseException, .object]
  | .unicodeError =>
    [.valueError, .exception, .baseException, .object]
  | .unicodeDecodeError | .unicodeEncodeError | .unicodeTranslateError =>
    [.unicodeError, .valueError, .exception, .baseException, .object]
  | .bytesWarning | .deprecationWarning | .encodingWarning | .futureWarning | .importWarning
  | .pendingDeprecationWarning | .resourceWarning | .runtimeWarning | .syntaxWarning
  | .unicodeWarning | .userWarning =>
    [.warning, .exception, .baseException, .object]
  | .argumentError =>
    [.libraryError, .valueError, .exception, .baseException, .object]
  | .missingError =>
    [.argumentError, .libraryError, .valueError, .typeError, .exception, .baseException, .object]
  | .oversizeError =>
    [.libraryError, .overflowError, .arithmeticError, .exception, .baseException, .object]
  | .abstractMeta =>
    [.type, .object]
  | .rootLogger =>
    [.logger, .object]

/-- The module of a known class. -/
def moduleName : KnownClass → String
  | .libraryError | .argumentError | .missingError | .oversizeError => "textkit.exceptions"
  | .abstractMeta => "abc"
  | .logger | .rootLogger => "logging"
  | _ => "builtins"

/-- Whether the module of a known class is also seen on its descendants and
instances. The module of the others is seen on the class alone. -/
def handsDownModule : KnownClass → Bool
  | .exceptionGroup | .libraryError | .argumentError | .missingError | .oversizeError
  | .abstractMeta | .logger | .rootLogger => true
  | _ => false

/-- The class of a known class. -/
def metaclass : KnownClass → KnownClass
  | .libraryError | .argumentError | .missingError | .oversizeError => .abstractMeta
  | _ => .type

/-- A class and its ancestors, nearest first. -/
def lineage (c : KnownClass) : List KnownClass := c :: c.ancestors

/-- Whether a known class is another or descends from it. -/
def derivesFrom (c d : KnownClass) : Bool := c.lineage.contains d

end KnownClass

end LenientText
