import LenientText.Object.Bracket

/-!
# What an exception says

The text of an exception is that of its argument, or its arguments in brackets if
there are several. Some classes say more. A missing key is displayed. A syntax
error gives its message with the file and the line, an error of the operating
system its number, its reason and the files concerned, and a group of exceptions
its message and their number. An error in the coding of texts tells what could
not be handled and where.
-/

namespace LenientText

namespace Explanation

/-- The part of a path behind its last slash. -/
def baseName (path : Text) : Text := (path.reverse.takeWhile (· != Text.point '/')).reverse

/-- The number of a line as it is written. One that is no signed 64-bit integer is
written as minus one. -/
def lineNumber (n : Int) : Text :=
  Integer.decimal (if -0x8000000000000000 ≤ n ∧ n < 0x8000000000000000 then n else -1)

/-- A place in brackets, as far as it is known. -/
def place : Option Text → Option Int → Text
  | none, none => []
  | some file, none => .ofString " (" ++ baseName file ++ .ofString ")"
  | none, some line => .ofString " (line " ++ lineNumber line ++ .ofString ")"
  | some file, some line =>
    .ofString " (" ++ baseName file ++ .ofString ", line " ++ lineNumber line ++ .ofString ")"

/-- Files behind a colon, the second one as the target of the first. -/
def files (names : List Text) : Text :=
  .ofString ": " ++ Text.join (.ofString " -> ") names

/-- The part of a sequence that could not be handled: a single member if the part
has length one and lies inside, and otherwise its first and its last position. -/
def stretch (members : List Nat) (start stop : Int) (one : Nat → Text) (many : String) : Text :=
  let several := Text.ofString many ++ .ofString " in position " ++ Integer.decimal start ++
    .ofString "-" ++ Integer.decimal (stop - 1)
  if stop = start + 1 then
    match start with
    | .ofNat n => (members[n]?.map fun c => one c ++ .ofString " in position " ++
        Integer.decimal n).getD several
    | .negSucc _ => several
  else several

/-- A code point that could not be handled. -/
def character (c : Nat) : Text := .ofString "character '" ++ Quoted.byNumber c ++ .ofString "'"

/-- A byte that could not be handled. -/
def byte (b : Nat) : Text := .ofString "byte 0x" ++ Numeral.hexOfWidth 2 b

/-- The number of exceptions in a group. -/
def memberCount (n : Nat) : Text :=
  .ofString " (" ++ Integer.decimal n ++ .ofString " sub-exception" ++
    .ofString (if n = 1 then ")" else "s)")

end Explanation

/-- The members of a list or tuple; other objects have none. -/
def Store.members (s : Store) (o : Obj) : List Obj :=
  match s.content o with
  | .list items | .tuple items => items
  | _ => []

/-- The bytes of an object of either kind; other objects have none. -/
def Store.bytes (s : Store) (o : Obj) : List Nat :=
  match s.content o with
  | .bytes bs | .byteArray bs => bs
  | _ => []

/-- What there is to say about an exception. -/
inductive Saying where
  /-- Its arguments as they are. -/
  | arguments
  /-- A form of one of the objects that it keeps. -/
  | form (f : Form) (o : Obj)
  /-- A text. -/
  | text (t : Text)
  /-- The text of one of the objects that it keeps, with something behind it. -/
  | followed (o : Obj) (t : Text)
  /-- The number and the reason of an error of the operating system, and the files, if it is
  about files. -/
  | system (number reason : Obj) (files? : Option (List Obj))
  /-- The coding concerned, if one is named, what could not be done with which part, and the
  reason. -/
  | coding (coding? : Option Obj) (failure : Text) (reason : Obj)

/-- The objects that are shown where something is said. -/
def Saying.objects : Saying → List Obj
  | arguments | text _ => []
  | form _ o | followed o _ => [o]
  | system number reason files? => number :: reason :: files?.getD []
  | coding coding? _ reason => reason :: coding?.toList

namespace Store

/-- What there is to say about a syntax error. -/
def sayingOfSyntax : List Obj → Detail → Saying
  | [], _ => .text (.ofString "None")
  | a :: _, .place none none => .form .text a
  | a :: _, .place file? line? => .followed a (Explanation.place file? line?)
  | a :: _, _ => .form .text a

/-- What there is to say about an error of the operating system. -/
def sayingOfSystem : List Obj → Detail → Saying
  | number :: reason :: rest, detail =>
    if 3 < rest.length then .arguments
    else match detail with
      | .files names => .system number reason (some names)
      | _ => .system number reason none
  | _, _ => .arguments

/-- What there is to say about a part that could not be handled. -/
def sayingOfPart (s : Store) (coding? : Option Obj) (verb : String) (first last : Obj)
    (members : List Nat) (one : Nat → Text) (many : String) (reason : Obj) : Saying :=
  .coding coding? (.ofString verb ++ Explanation.stretch members ((s.integer? first).getD 0)
    ((s.integer? last).getD 0) one many) reason

/-- What there is to say about an exception with arguments and what it keeps besides. -/
def saying (s : Store) (o : Obj) (arguments : List Obj) (detail : Detail) : Saying :=
  if s.isA o .keyError then
    match arguments with
    | [a] => .form .display a
    | _ => .arguments
  else if s.isA o .syntaxError then sayingOfSyntax arguments detail
  else if s.isA o .osError then sayingOfSystem arguments detail
  else if s.isA o .unicodeEncodeError then
    match arguments with
    | [coding, t, first, last, reason] =>
      s.sayingOfPart (some coding) "can't encode " first last ((s.text? t).getD [])
        Explanation.character "characters" reason
    | _ => .arguments
  else if s.isA o .unicodeDecodeError then
    match arguments with
    | [coding, bs, first, last, reason] =>
      s.sayingOfPart (some coding) "can't decode " first last (s.bytes bs) Explanation.byte "bytes"
        reason
    | _ => .arguments
  else if s.isA o .unicodeTranslateError then
    match arguments with
    | [t, first, last, reason] =>
      s.sayingOfPart none "can't translate " first last ((s.text? t).getD [])
        Explanation.character "characters" reason
    | _ => .arguments
  else if s.isA o .baseExceptionGroup then
    match arguments with
    | [message, members] =>
      .followed message (Explanation.memberCount (s.members members).length)
    | _ => .arguments
  else .arguments

end Store

namespace Run

/-- What an exception without further particulars says. -/
def plainExplanation (inside : Form → List Obj → Obj → Run TextOrObj) (active : List Obj)
    (o : Obj) : List Obj → Run TextOrObj
  | [] => return .text []
  | [a] => inside .text active a
  | arguments => .text <$> once active o (.ofString "(...)") do
    return Bracket.tuple (← arguments.mapM fun a => plain (inside .display (o :: active) a))

/-- The name of a coding in front of what could not be done, if one is named. -/
def codingIntro (shown : Obj → Run Text) : Option Obj → Run Text
  | some c => return .ofString "'" ++ (← shown c) ++ .ofString "' codec "
  | none => return []

/-- Says what there is to say, given how the objects inside an exception are shown. -/
def say (inside : Form → List Obj → Obj → Run TextOrObj) (active : List Obj) (o : Obj)
    (arguments : List Obj) : Saying → Run TextOrObj
  | .arguments => plainExplanation inside active o arguments
  | .form f a => inside f active a
  | .text t => return .text t
  | .followed a t => return .text ((← plain (inside .text active a)) ++ t)
  | .system number reason files? => do
    let number ← plain (inside .text active number)
    let reason ← plain (inside .text active reason)
    let beginning := .ofString "[Errno " ++ number ++ .ofString "] " ++ reason
    match files? with
    | some names =>
      let names ← names.mapM fun f => plain (inside .display active f)
      return .text (beginning ++ Explanation.files names)
    | none => return .text beginning
  | .coding coding? failure reason => do
    let reason ← plain (inside .text active reason)
    let beginning ← codingIntro (fun a => plain (inside .text active a)) coding?
    return .text (beginning ++ failure ++ .ofString ": " ++ reason)

/-- What an exception says, given how the objects inside it are shown. -/
def explanation (inside : Form → List Obj → Obj → Run TextOrObj) (active : List Obj) (o : Obj)
    (arguments : List Obj) (detail : Detail) : Run TextOrObj := do
  say inside active o arguments ((← store).saying o arguments detail)

end Run

end LenientText
