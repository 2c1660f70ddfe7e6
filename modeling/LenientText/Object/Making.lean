import LenientText.Object.Listing

/-!
# Making classes, instances and exceptions

A class that is made has the more special one of the class asked for and the class
of its base as its own class. An instance is made without arguments. An exception
is made from arguments, and some classes look into them: an error of the operating
system becomes one of the class for its number and sets the files apart, a syntax
error reads its place out of the second argument, and a group without exceptions
that end a process is an ordinary exception. Arguments that do not fit are kept as
they are.
-/

namespace LenientText

/-- The class of the errors of the operating system with a number, where there is
a special one. -/
def KnownClass.ofErrorNumber? (n : Int) : Option KnownClass :=
  [(1, KnownClass.permissionError), (2, .fileNotFoundError), (3, .processLookupError),
    (4, .interruptedError), (10, .childProcessError), (11, .blockingError),
    (13, .permissionError), (17, .fileExistsError), (20, .notDirectoryError),
    (21, .isDirectoryError), (32, .brokenPipeError), (103, .connectionAbortedError),
    (104, .connectionResetError), (108, .brokenPipeError), (110, .timeoutError),
    (111, .connectionRefusedError), (114, .blockingError), (115, .blockingError)].lookup n

namespace Store

/-- The class of a class made with a base, where another class may be asked for. -/
def metaclass (s : Store) (asked? : Option Obj) (base : Obj) : Obj :=
  match asked? with
  | some m => if (s.lineage (s.typeOf base)).contains m then s.typeOf base else m
  | none => s.typeOf base

/-- An error of the operating system made from arguments. The third and the fifth
one name files, unless the error is about blocking and the third one counts what
was written. With a file only the number and the reason stay arguments. -/
def systemError (s : Store) (cls : Obj) : List Obj → Entity
  | number :: reason :: rest =>
    if 3 < rest.length then ⟨cls, .exception (number :: reason :: rest) .none⟩
    else
      let special? := (s.integer? number).bind KnownClass.ofErrorNumber?
      let cls := if cls = .known .osError then (special?.map .known).getD cls else cls
      let isCount (o : Obj) : Bool := cls == .known .blockingError && (s.integer? o).isSome
      match rest.head?.filter fun f => f != .null && !isCount f with
      | some file =>
        ⟨cls, .exception [number, reason] (.files (file :: (rest[2]?.filter (· != .null)).toList))⟩
      | none => ⟨cls, .exception (number :: reason :: rest) .none⟩
  | arguments => ⟨cls, .exception arguments .none⟩

/-- The place that the items of an argument give. The line has to be an integer of
the plain class. -/
def placeOf (s : Store) : List Obj → Detail
  | file :: line :: _ =>
    .place (s.text? file) (if s.typeOf line = .known .integer then s.integer? line else none)
  | _ => .none

/-- The class of a group of exceptions: of the most general ones an ordinary
exception is made if all members are ordinary. -/
def groupClass (s : Store) (cls : Obj) (arguments : List Obj) : Obj :=
  match arguments with
  | [_, members] =>
    if cls = .known .baseExceptionGroup ∧ (s.members members).all (s.isA · .exception) then
      .known .exceptionGroup
    else cls
  | _ => cls

end Store

namespace Run

/-- Makes a class with a base. The ancestors in its description are those that the
base gives it. -/
def makeClass (asked? : Option Obj) (base : Obj) (info : ClassInfo) : Run Obj := do
  let s ← store
  add ⟨s.metaclass asked? base, .cls { info with ancestors := s.lineage base }⟩

/-- Makes an instance of a class without arguments. -/
def makeInstance (cls : Obj) : Run Obj := do add ⟨cls, (← store).freshContent cls⟩

/-- Makes an exception of a class from arguments. -/
def makeException (cls : Obj) (arguments : List Obj) : Run Obj := do
  let s ← store
  if s.derivesFrom cls .osError then add (s.systemError cls arguments)
  else if s.derivesFrom cls .syntaxError then
    match arguments with
    | [_, info] =>
      let items ← rescue (itemsOf info) .exception fun _ => return []
      add ⟨cls, .exception arguments ((← store).placeOf items)⟩
    | _ => add ⟨cls, .exception arguments .none⟩
  else if s.derivesFrom cls .baseExceptionGroup then
    add ⟨s.groupClass cls arguments, .exception arguments .none⟩
  else add ⟨cls, .exception arguments .none⟩

end Run

end LenientText
