import LenientText.Check.Checker
import LenientText.Check.Condition
import LenientText.Object.Pretence
import LenientText.Text.Affix
import LenientText.Text.Padding
import LenientText.Text.Repetition

/-!
# Guarded operations

The operations on texts as they are offered to callers, whose arguments are any
objects. First every argument is held against its hint. Then a text that must not be
absent is missed, in the order of the parameters. Then come the conditions on the other
arguments, and only then anything about sizes. An object that only claims to be a text
or an integer may pass the check and is used for what it really is, as far as that goes.
A class may answer for the length of texts and for how integers compare, and is believed;
in everything else a text or an integer counts for what it holds.
-/

namespace LenientText.Guarded

open Run

/-- What was asked for, or the shortage that stands against it. -/
def granted {α : Type} : Except Shortage α → Run α
  | .ok a => return a
  | .error s => fail (.shortage s)

/-- The text that an object holds, or the fault that stands against it. -/
def textOrFault (o : Obj) (fault : Store → Obj → Fault) : Run Text := do
  let s ← store
  match s.text? o with
  | some t => return t
  | none => fail (fault s o)

section

variable (check : Checker)

/-- The empty text in place of an absent one, and any other text as it is. -/
def nullToEmpty (text : Obj) : Run TextOrObj := do
  check.argument .textOrNull text
  match text with
  | .null => return .text []
  | o => return .object (← check.deliver .text o)

/-- Whether a text is absent or empty. -/
def isNullOrEmpty (text : Obj) : Run Bool := do
  check.argument .textOrNull text
  return !(← truthOf text)

/-- A text as it is, and nothing in place of the empty one. -/
def emptyToNull (text : Obj) : Run Obj := do
  check.argument .textOrNull text
  if ← isNullOrEmpty check text then return .null
  check.deliver .textOrNull text

end

/-- A text that must not be absent. -/
def demandPresent (text : Obj) (label : String) : Run Unit :=
  Run.requirePresent text (.text (.ofString label))

/-- The template of the message about padding that is no single code point. -/
def paddingTemplate : Text := .ofString "Padding \"%s\" not a single character."

/-- The template of the message about a negative count. -/
def countTemplate : Text := .ofString "invalid count: %s"

section

variable (check : Checker)

/-- Holds the arguments of a padding operation against what it asks of them. -/
def demandPadding (text minLength padding : Obj) : Run Unit := do
  check.argument .textOrNull text
  check.argument .integer minLength
  check.argument .text padding
  demandPresent text "String"
  let n ← lengthOf padding
  Run.require (n == 1) (.text paddingTemplate) [padding]

/-- A text completed to a least length by padding that `complete` puts before it or
behind it. One that is long enough stays as it is. What is missing follows from the length
of the text and the least length. What is no text cannot be joined with the padding, which
is found out when that is made. -/
def pad (complete : Nat → Text → Text → Except Shortage Text) (fault : Store → Obj → Fault)
    (text minLength padding : Obj) : Run TextOrObj := do
  demandPadding check text minLength padding
  let length ← lengthOf text
  let isLong ← ordered minLength .atMost (fun least => least ≤ length)
    fun name => .order .atLeast (.ofString "int") name
  if ← truthOf isLong then return .object (← check.deliver .text text)
  let least ← wholeNumberOf minLength .minus
  let lack := least - (← lengthOf text)
  let s ← get
  let filler ← granted (Text.filler s.capacity (s.store.plain (.object padding)) lack)
  return .text (← granted (complete s.capacity filler (← textOrFault text fault)))

/-- A text completed to a least length by padding before it. -/
def padStart : Obj → Obj → Obj → Run TextOrObj := pad check Text.joined Pretence.behind

/-- A text completed to a least length by padding behind it. -/
def padEnd : Obj → Obj → Obj → Run TextOrObj :=
  pad check (fun capacity filler t => Text.joined capacity t filler) Pretence.before

end

/-- The fault of a text that would be too long, or of its length if that is too
long to be written. -/
def oversize (length : Nat) : Fault :=
  if Integer.isWritable length then .oversize length else .unwritable

/-- So many copies of a text, whose length is as long as its class answers. The text is
joined to itself while the length falls short of what is missing, and then completed by a
part of itself. Its class is asked as long as the text is still the object. The doubling of
a text that only claims to have code points never comes to an end. -/
def copiesOf (text : Obj) (size : Int) : Run TextOrObj := do
  let length ← lengthOf text
  let rest := size - (← lengthOf text)
  if length < rest then
    let t ← textOrFault text Pretence.part
    if t.isEmpty then fail .endless
    let last := Text.doubled size.toNat (t ++ t)
    return .text (last ++ last.slice 0 (some (size - last.length)))
  let missing := size - (← lengthOf text)
  let part ← partOf (.object text) (some 0) (some (.index missing))
  let t ← textOrFault text Pretence.part
  let s ← store
  match part with
  | .text u => return .text (t ++ u)
  | .object o =>
    match s.text? o with
    | some u => return .text (t ++ u)
    | none => fail (Pretence.behind s o)

/-- So many copies of a text. A single one is the text as it is. -/
def repetition (check : Checker) (text count : Obj) : Run TextOrObj := do
  check.argument .textOrNull text
  check.argument .integer count
  demandPresent text "String"
  let isCount ← ordered count .atLeast (0 ≤ ·) fun name => .order .atLeast name (.ofString "int")
  check.argument .boolean isCount
  Run.require (← truthOf isCount) (.text countTemplate) [count]
  if ← equalsInteger count 0 then return .text []
  if ← equalsInteger count 1 then return .object (← check.deliver .text text)
  let length ← lengthOf text
  let size := length * (← wholeNumberOf count .times)
  if Text.maxLength < size then fail (oversize size.toNat)
  if (← get).capacity < size then fail (.shortage .beyondMemory)
  copiesOf text size

section

variable (check : Checker)

/-- The two texts of which something common is asked. Both have to be present and
have a length, and then to be texts. -/
def demandTexts (first second : Obj) : Run (Text × Text) := do
  check.argument .textOrNull first
  check.argument .textOrNull second
  demandPresent first "First string"
  demandPresent second "Second string"
  let _ ← lengthOf first
  let _ ← lengthOf second
  check.argument .text first
  check.argument .text second
  let a ← textOrFault first Pretence.part
  return (a, (← store).plain (.object second))

/-- The longest common start of two texts that splits no surrogate pair. -/
def commonStart (first second : Obj) : Run Text := do
  let (a, b) ← demandTexts check first second
  return Text.commonStart a b

/-- The longest common end of two texts that splits no surrogate pair. -/
def commonEnd (first second : Obj) : Run Text := do
  let (a, b) ← demandTexts check first second
  return Text.commonEnd a b

/-- Whether the only code point of a text has a property. What has another length, by what
its class answers, has no such code point. The others have to hold just one, as bytes do as
well. -/
def isUnit (isSo : Text → Bool) (text : Obj) : Run Bool := do
  check.argument .text text
  if (← lengthOf text) != 1 then return false
  let s ← store
  match s.content text with
  | .text t | .bytes t | .byteArray t =>
    if t.length = 1 then return isSo t else fail (.mismatch (.codePoint t.length))
  | _ => fail (.mismatch (.codePointOf (s.typeName text)))

/-- Whether a text is a single high surrogate. -/
def isSingleHigh : Obj → Run Bool := isUnit check Text.isSingleHigh

/-- Whether a text is a single low surrogate. -/
def isSingleLow : Obj → Run Bool := isUnit check Text.isSingleLow

/-- Whether a surrogate pair starts at an index of a text. The text is only looked at
for an index that is not negative, and at the index only if that is in range. -/
def pairAt (text index : Obj) : Run Bool := do
  check.argument .text text
  check.argument .integer index
  let isIndex ← ordered index .atLeast (0 ≤ ·) (.order .atMost (.ofString "int"))
  if !(← truthOf isIndex) then return false
  let length ← lengthOf text
  let isInside ← ordered index .atMost (· + 2 ≤ length)
    fun name => .order .atMost name (.ofString "int")
  if !(← truthOf isInside) then return false
  let s ← store
  match s.integer? index with
  | some i => return Text.pairAt (s.plain (.object text)) i
  | none => fail (.mismatch (.place (s.typeName index)))

/-- The label of an object whose absence is reported without any other. -/
def defaultLabel : Text := .ofString "Object"

/-- Fails if an object is absent. -/
def requirePresent (o : Obj) (label? : Option Obj) : Run Unit := do
  match label? with
  | some l =>
    check.argument .text l
    Run.requirePresent o (.object l)
  | none => Run.requirePresent o (.text defaultLabel)

/-- Fails if a condition does not hold. -/
def require (condition template : Obj) (arguments : List Obj) : Run Unit := do
  check.argument .boolean condition
  check.argument .textOrNull template
  Run.require (← truthOf condition) (.object template) arguments

/-- The name of the logger that is meant where no name is given. -/
def packageLogger : Text := .ofString "textkit"

/-- The logger of a name, created if needed. -/
def loggerOf (name : Text) : Run Obj := do
  modify fun s => { s with registry := s.registry.ensure name }
  return .logger (if Registry.isRoot name then Registry.rootName else name)

/-- The logger whose name an object holds, created if needed. The object has to count as
a text. -/
def namedLogger (o : Obj) : Run Obj := do
  if !(← isInstance o .text) then fail (.mismatch .loggerName)
  loggerOf (← textOrFault o Pretence.search)

/-- The logger that an object names, created if needed. Nothing stands for the
package, and what counts as false for the root. The name has to count as a text
twice, once for being the name of the root and once for being a name. -/
def logger (name : Obj) : Run Obj := do
  check.argument .nonemptyTextOrNull name
  match name with
  | .null => loggerOf packageLogger
  | o =>
    if !(← truthOf o) then return .logger Registry.rootName
    if ← isInstance o .text then
      if ← equalsText Registry.rootName (.object o) then return .logger Registry.rootName
    namedLogger o

end

end LenientText.Guarded
