import LenientText.Object.Basic

/-!
# A registry of named loggers

Loggers have dotted names and settings of their own. The parent of a logger is
not stored: it is the nearest existing logger among the ancestors of its name,
and the root where none exists. Creating a logger thereby changes the parents of
others, but never a setting. Two rules of the lookup show only in odd names. A
cut directly behind a dot hides the cut before that dot, so that `a..b` has the
ancestor `a.` and not `a`; and a logger whose name begins the name of the root
does not become the parent of loggers older than itself.

Of a handler it matters which one it is and what it asks of an exception that comes
with a record. What becomes of the record then is not followed any further, nor is
anything that goes wrong with it.
-/

namespace LenientText

/-- What a handler may ask of an exception that is attached to a record. -/
inductive Question where
  /-- Whether the exception counts as true, for if not it is not shown. -/
  | truth
  /-- A form of the exception. -/
  | form (f : Form)
  /-- An attribute of the class of the exception. -/
  | ofClass (a : Attribute)
deriving DecidableEq, Repr

/-- A handler of records. -/
structure Handler where
  /-- The number that tells it from other handlers. -/
  number : Nat
  /-- What it asks of the exception that is attached to a record, in order, when the handlers
  before it have had the record. -/
  asks : List Question
deriving DecidableEq, Repr

/-- What a record has of the exception that is attached to it. -/
inductive Attachment where
  /-- The exception, and where it was thrown. -/
  | complete
  /-- An exception that counts as false, and nothing of where it was thrown. -/
  | untrue
  /-- The exception, and something else for where it was thrown. -/
  | astray
deriving DecidableEq, Repr

/-- What a handler asks of an attached exception. One that counts as false is not shown, but
that is only found out by asking once more. One that comes with something else for where it
was thrown cannot be shown. -/
def Handler.asksOf (h : Handler) : Attachment → List Question
  | .complete => h.asks
  | .untrue => if h.asks.isEmpty then [] else [.truth]
  | .astray => []

/-- The handler where a record meets no other one. It writes the exception, which is shown
with its text behind the name of its class. -/
def Handler.lastResort : Handler := ⟨0, [.form .text, .ofClass .qualifiedName, .ofClass .module]⟩

/-- A handler that receives a record, and the logger to which it is attached. -/
structure Receiver where
  /-- The name of the logger. -/
  owner : Text
  /-- The handler. -/
  handler : Handler
deriving DecidableEq, Repr

/-- A logger with its own settings. -/
structure Logger where
  /-- The dotted name. -/
  name : Text
  /-- The own level; zero means that an ancestor decides. -/
  level : Int
  /-- Whether records issued on this logger are dropped. -/
  isDisabled : Bool
  /-- Whether records go on to the parent. -/
  propagates : Bool
  /-- The handlers attached, in order. -/
  handlers : List Handler
deriving DecidableEq, Repr

/-- A logger as it is when created. -/
def Logger.fresh (name : Text) : Logger := ⟨name, 0, false, true, []⟩

/-- The root and all other loggers, oldest first. -/
structure Registry where
  /-- The root of the hierarchy. -/
  root : Logger
  /-- The loggers created so far. -/
  loggers : List Logger
deriving DecidableEq, Repr

/-- The severity of a warning. -/
abbrev Logger.warningLevel : Int := 30

namespace Registry

/-- The name of the root. -/
def rootName : Text := .ofString "root"

/-- The registry at the start: a root for warnings, with one handler that only keeps the
records. -/
def initial : Registry := ⟨⟨rootName, Logger.warningLevel, false, true, [⟨1, []⟩]⟩, []⟩

/-- The ancestors of a name given from its end, nearest first. -/
def ancestorsBackward (reversed : Text) : List Text :=
  match _h : reversed.dropWhile (· != Text.dot) with
  | _ :: c :: rest => (c :: rest).reverse :: ancestorsBackward rest
  | _ => []
termination_by reversed.length
decreasing_by
  have hs := (List.dropWhile_suffix (l := reversed) (· != Text.dot)).length_le
  rw [_h] at hs
  simp only [List.length_cons] at hs
  omega

/-- The names at which the parent of a name is looked up, nearest first. Each
ends before a dot, and none is empty. -/
def ancestors (name : Text) : List Text := ancestorsBackward name.reverse

/-- An ancestor listed from the end of a name is shorter than the name. -/
theorem length_lt_of_mem_ancestorsBackward {reversed a : Text}
    (h : a ∈ ancestorsBackward reversed) : a.length < reversed.length := by
  fun_induction ancestorsBackward reversed with
  | case1 reversed d c rest hd ih =>
    have hs := (List.dropWhile_suffix (l := reversed) (· != Text.dot)).length_le
    rw [hd] at hs
    simp only [List.length_cons] at hs
    rcases List.mem_cons.1 h with rfl | h
    · simp only [List.length_reverse, List.length_cons]; omega
    · have := ih h
      omega
  | case2 => simp only [List.not_mem_nil] at h

/-- An ancestor is shorter than the name. -/
theorem length_lt_of_mem_ancestors {name a : Text} (h : a ∈ ancestors name) :
    a.length < name.length := by
  have := length_lt_of_mem_ancestorsBackward h
  simpa only [List.length_reverse] using this

/-- Whether a name means the root. -/
def isRoot (name : Text) : Bool := name.isEmpty || name == rootName

/-- The logger of a name that does not mean the root, if it exists. -/
def find? (r : Registry) (name : Text) : Option Logger := r.loggers.find? (·.name == name)

/-- Whether a logger of the name exists below the root. -/
def has (r : Registry) (name : Text) : Bool := (r.find? name).isSome

/-- Whether the first name was registered before the second. -/
def isOlder (r : Registry) (name other : Text) : Bool :=
  (r.loggers.takeWhile (·.name != other)).any (·.name == name)

/-- Whether an existing logger accepts another as its child. -/
def adopts (r : Registry) (parent child : Text) : Bool :=
  !(parent.isPrefixOf rootName && r.isOlder child parent)

/-- The name of the nearest ancestor that exists and adopts the name. Without one
the root is the parent. -/
def parentName? (r : Registry) (name : Text) : Option Text :=
  (ancestors name).find? fun a => r.has a && r.adopts a name

/-- A parent below the root has a shorter name. -/
theorem length_parentName_lt {r : Registry} {name p : Text} (h : r.parentName? name = some p) :
    p.length < name.length :=
  length_lt_of_mem_ancestors (List.mem_of_find?_eq_some h)

/-- The loggers from a name up to the root. A name without a logger counts as a
fresh one. -/
def lineageBelow (r : Registry) (name : Text) : List Logger :=
  (r.find? name).getD (.fresh name) ::
    match _h : r.parentName? name with
    | some p => r.lineageBelow p
    | none => [r.root]
termination_by name.length
decreasing_by exact length_parentName_lt _h

/-- The loggers that a record issued under a name may pass, the root last. -/
def lineage (r : Registry) (name : Text) : List Logger :=
  if isRoot name then [r.root] else r.lineageBelow name

/-- The logger of a name. -/
def logger (r : Registry) (name : Text) : Logger :=
  if isRoot name then r.root else (r.find? name).getD (.fresh name)

/-- The name of the parent; the root has none. -/
def parent? (r : Registry) (name : Text) : Option Text :=
  if isRoot name then none else some ((r.parentName? name).getD r.root.name)

/-- The registry with a logger of the name, created if it did not exist. -/
def ensure (r : Registry) (name : Text) : Registry :=
  if isRoot name || r.has name then r
  else { r with loggers := r.loggers ++ [.fresh name] }

/-- The registry with the settings of one logger changed. -/
def configure (r : Registry) (name : Text) (f : Logger → Logger) : Registry :=
  let r := r.ensure name
  if isRoot name then { r with root := f r.root }
  else { r with loggers := r.loggers.map fun l => if l.name == name then f l else l }

/-- The first own level on a lineage that is not zero. -/
def firstLevel : List Logger → Int
  | [] => 0
  | l :: rest => if l.level = 0 then firstLevel rest else l.level

/-- The level that decides about records issued under a name. -/
def effectiveLevel (r : Registry) (name : Text) : Int := firstLevel (r.lineage name)

/-- The handlers that a record meets on a lineage, which ends for it at the first logger
that does not propagate. -/
def met : List Logger → List Receiver
  | [] => []
  | l :: rest => l.handlers.map (⟨l.name, ·⟩) ++ (if l.propagates then met rest else [])

/-- The handlers on the way of a record issued under a name. -/
def handlerChain (r : Registry) (name : Text) : List Receiver := met (r.lineage name)

/-- Whether a record of a severity issued under a name is handled at all. -/
def isEnabledFor (r : Registry) (name : Text) (severity : Int) : Bool :=
  !(r.logger name).isDisabled && r.effectiveLevel name ≤ severity

/-- The handlers that receive a record. -/
def receivers (r : Registry) (name : Text) (severity : Int) : List Receiver :=
  if r.isEnabledFor name severity then r.handlerChain name else []

/-- The handlers that show a record: those that receive it, or the last resort if it is
handled and there are none. -/
def audience (r : Registry) (name : Text) (severity : Int) : List Handler :=
  if r.isEnabledFor name severity then
    match r.handlerChain name with
    | [] => [Handler.lastResort]
    | rs => rs.map (·.handler)
  else []

/-- What is asked of the exception attached to a record. -/
def questions (r : Registry) (name : Text) (severity : Int) (attached : Attachment) :
    List Question :=
  (r.audience name severity).flatMap (·.asksOf attached)

end Registry

/-- What a host can read off a logger. -/
structure Logger.Description where
  /-- The name. -/
  name : Text
  /-- The name of the parent, if there is one. -/
  parent? : Option Text
  /-- The own level. -/
  level : Int
  /-- The level in force. -/
  effectiveLevel : Int
  /-- Whether records go on to the parent. -/
  propagates : Bool
  /-- The number of own handlers. -/
  handlers : Nat
deriving DecidableEq, Repr

/-- The description of the logger of a name. -/
def Registry.describe (r : Registry) (name : Text) : Logger.Description :=
  let l := r.logger name
  ⟨l.name, r.parent? name, l.level, r.effectiveLevel name, l.propagates, l.handlers.length⟩

/-- The name of a level as it stands in the text of a logger. -/
def Logger.levelName? (level : Int) : Option Text :=
  if level = 50 then some (.ofString "CRITICAL")
  else if level = 40 then some (.ofString "ERROR")
  else if level = 30 then some (.ofString "WARNING")
  else if level = 20 then some (.ofString "INFO")
  else if level = 10 then some (.ofString "DEBUG")
  else if level = 0 then some (.ofString "NOTSET")
  else none

namespace Registry

/-- Creating a logger keeps the root. -/
theorem root_ensure (r : Registry) (name : Text) : (r.ensure name).root = r.root := by
  unfold ensure
  split <;> rfl

/-- Creating a logger keeps every logger that exists. -/
theorem find?_ensure_of_some {r : Registry} {name other : Text} {l : Logger}
    (h : r.find? other = some l) : (r.ensure name).find? other = some l := by
  unfold ensure
  split
  · exact h
  · simp only [find?, List.find?_append] at h ⊢
    rw [h]
    rfl

/-- A name that does not mean the root has a logger after its creation. -/
theorem has_ensure {r : Registry} {name : Text} (h : isRoot name = false) :
    (r.ensure name).has name = true := by
  unfold ensure
  by_cases hn : r.has name = true
  · rw [if_pos (by rw [hn, Bool.or_true])]
    exact hn
  · rw [if_neg (by rw [h, Bool.false_or]; exact hn)]
    simp only [has, find?, List.find?_append, List.find?_singleton, Logger.fresh, beq_self_eq_true,
      ↓reduceIte, Option.isSome_or, Option.isSome_some, Bool.or_true]

end Registry

end LenientText
