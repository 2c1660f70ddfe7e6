import LenientText.Object.Naming

/-!
# Conversion that tolerates failures

The conversion of an object gives its text. If that raises an ordinary exception,
the object is shown by its identity form and the name of the class of the
exception instead, and a warning that carries the exception is issued before.
What is no ordinary exception passes through, and so does anything raised while
names are read. Where the warning is handled at all, it is first looked whether the
exception counts as true and where it was thrown, and what that raises passes through as
well. What handlers ask of the exception afterwards calls its hooks, but stays with the
handlers.
-/

namespace LenientText

namespace Lenient

/-- The text that stands for nothing. -/
def nullText : Text := .ofString "null"

/-- The logger for failed conversions where no other is given. -/
def defaultLogger : Text := .ofString "textkit.util.type.text.string.strformat"

/-- The beginning of the warning about a failed conversion. -/
def warningIntro : Text := .ofString "Exception during lenient_format() for "

/-- What stands for an object that could not be converted. -/
def apology (identity exceptionName : Text) : Text :=
  .ofString "<" ++ identity ++ .ofString " threw " ++ exceptionName ++ .ofString ">"

end Lenient

namespace Run

/-- Looks at what is attached to a warning: whether it counts as true, and if it does, where
it was thrown. Only a thrown exception can have a class that answers for that. -/
def weigh : Raised → Run Attachment
  | .thrown e => do
    if !(← truthOf e) then return .untrue
    match ← ask e .trail with
    | none | some .null => return .complete
    | some _ => return .astray
  | .fault _ => return .complete

/-- Puts a question of a handler to what is attached to a warning. -/
def put (cause : Raised) (q : Question) : Run Unit :=
  match cause, q with
  | .thrown e, .truth => attempt (truthOf e)
  | .thrown e, .form f => attempt (written f e)
  | .thrown e, .ofClass a => attempt (do read ((← store).typeOf e) a)
  | .fault _, _ => return ()

/-- Notes a warning, and tells what the handlers ask of what is attached to it. -/
def noteWarning (name message : Text) (cause : Raised) (attached : Attachment) :
    Run (List Question) := do
  let s ← get
  let warning : Warning := ⟨(s.registry.logger name).name, message, cause,
    s.registry.receivers name Logger.warningLevel⟩
  set { s with warnings := s.warnings ++ [warning] }
  return s.registry.questions name Logger.warningLevel attached

/-- Looks at what is attached to a warning, if the warning is handled. -/
def weighFor (name : Text) (cause : Raised) : Run Attachment := do
  if (← get).registry.isEnabledFor name Logger.warningLevel then weigh cause else return .complete

/-- Issues a warning on the logger of a name. -/
def warnOn (name message : Text) (cause : Raised) : Run Unit := do
  let attached ← weighFor name cause
  (← noteWarning name message cause attached).forM (put cause)

/-- Issues a warning on a given logger, or on the default one if nothing is given, which
is created then if needed. Other objects cannot issue warnings. -/
def warn (logger : Obj) (message : Text) (cause : Raised) : Run Unit := do
  match logger with
  | .null =>
    modify fun s => { s with registry := s.registry.ensure Lenient.defaultLogger }
    warnOn Lenient.defaultLogger message cause
  | .logger name => warnOn name message cause
  | o => fail ((← store).noAttribute o (.ofString "warning"))

/-- What is shown for an object whose conversion failed. Identity first, then the
warning, then the name of the exception. -/
def recover (logger o : Obj) (cause : Raised) : Run Text := do
  let identity ← identityText o
  warn logger (Lenient.warningIntro ++ identity) cause
  let exceptionName ← qualifiedName (cause.type (← store))
  return Lenient.apology identity (← inserted exceptionName)

/-- The text of an object as it was given, tolerating failures. -/
def conversion (logger o : Obj) : Run TextOrObj :=
  match o with
  | .null => return .text Lenient.nullText
  | o => rescue (written .text o) .exception fun cause => .text <$> recover logger o cause

/-- The text of an object, tolerating failures. -/
def convert (logger o : Obj) : Run Text := plain (conversion logger o)

/-- The text of an object as it was given, tolerating failures, or a plain text itself. -/
def conversionEither (logger : Obj) : TextOrObj → Run TextOrObj
  | .text t => return .text t
  | .object o => conversion logger o

end Run

end LenientText
