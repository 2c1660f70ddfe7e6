import LenientText.Logging.Registry
import LenientText.Object.Fault

/-!
# Sessions and computations in them

A session holds the objects, the loggers, and a history: which hooks were called,
whose identity was asked for, and which warnings were issued. A computation
changes the session and ends with a value or with something raised. What it did
to the session before it raised something stays. How often a hook was called is
read off the history, so that classes themselves never change.
-/

namespace LenientText

/-- One call of a hook, on whatever instance. -/
structure Call where
  /-- The class that defines the hook. -/
  owner : Obj
  /-- The hook. -/
  hook : Hook
deriving DecidableEq, Repr

/-- A warning about a failed conversion. -/
structure Warning where
  /-- The name of the logger it is issued on. -/
  logger : Text
  /-- The message. -/
  message : Text
  /-- What made the conversion fail. -/
  cause : Raised
  /-- The handlers that receive it, in order. -/
  receivers : List Receiver
deriving DecidableEq, Repr

/-- The state in which computations run. -/
structure Session where
  /-- The objects. -/
  store : Store
  /-- The calls of hooks so far, oldest first. -/
  calls : List Call
  /-- The objects whose identity was asked for, in the order of the first asking. -/
  identified : List Obj
  /-- The identity of the first of these. -/
  firstIdentity : Nat
  /-- The loggers. -/
  registry : Registry
  /-- The warnings issued so far, oldest first. -/
  warnings : List Warning
  /-- How many code points or items memory holds. -/
  capacity : Nat
deriving DecidableEq, Repr

namespace Session

/-- The identity of the first object asked for, where nothing else is said. -/
abbrev defaultIdentity : Nat := 0x7f00abc0

/-- How far the identities of successive objects are apart. -/
abbrev identityStep : Nat := 16

/-- The capacity of a session where nothing else is said. -/
abbrev defaultCapacity : Nat := 0x4000000

/-- A session at its start. -/
def start (firstIdentity : Nat) : Session :=
  ⟨.empty, [], [], firstIdentity, .initial, [], defaultCapacity⟩

/-- The calls of hooks as they stand in a trace. -/
def trace (s : Session) : List Text :=
  s.calls.map fun c =>
    (match s.store.classInfo? c.owner with
      | some info => info.tag
      | none => s.store.className c.owner) ++ .ofString ("." ++ c.hook.spelling)

end Session

/-- A computation in a session. -/
abbrev Run := ExceptT Raised (StateM Session)

namespace Run

/-- Ends a computation with a fault. -/
def fail {α : Type} (f : Fault) : Run α := throw (.fault f)

/-- The objects as they are now. -/
def store : Run Store := do return (← get).store

/-- Adds an object. -/
def add (e : Entity) : Run Obj := do
  let s ← get
  let (o, store) := s.store.add e
  set { s with store }
  return o

/-- Makes an object of a known class. -/
def make (k : KnownClass) (content : Content) : Run Obj := add ⟨.known k, content⟩

/-- The plain text of what a computation gives. -/
def plain (x : Run TextOrObj) : Run Text := do
  let r ← x
  return (← store).plain r

/-- Runs a computation, and another one if it raises something that descends from
a known class. -/
def rescue {α : Type} (x : Run α) (k : KnownClass) (handler : Raised → Run α) : Run α :=
  tryCatch x fun r => do
    if r.isA (← store) k then handler r else throw r

/-- Runs a computation for what it does, and leaves what it gives or raises aside. -/
def attempt {α : Type} (x : Run α) : Run Unit :=
  tryCatch (do let _ ← x) fun _ => return ()

/-- Notes a call of a hook, and tells how often it was called before. -/
def noteCall (owner : Obj) (hook : Hook) : Run Nat := do
  let s ← get
  let c : Call := ⟨owner, hook⟩
  set { s with calls := s.calls ++ [c] }
  return s.calls.count c

/-- Calls a scripted hook. -/
def call (owner : Obj) (hook : Hook) (script : Script) : Run Obj := do
  match script.after (← noteCall owner hook) with
  | .gives o => return o
  | .throws e => throw (.thrown e)

/-- Calls a scripted hook that has to give a text, which is passed on as it is. Of
anything else the form is reported that was asked for, which need not be that of
the hook. -/
def callForText (asked : Form) (owner : Obj) (hook : Hook) (script : Script) : Run TextOrObj := do
  let o ← call owner hook script
  let s ← store
  match s.text? o with
  | some _ => return .object o
  | none => fail (.notText asked (s.typeName o))

/-- The identity of an object. An object asked for the first time gets the next
free number. -/
def identity (o : Obj) : Run Nat := do
  let s ← get
  let identified := if s.identified.contains o then s.identified else s.identified ++ [o]
  set { s with identified }
  return s.firstIdentity + Session.identityStep * identified.idxOf o

/-- A computation that succeeds goes on with the next one in the state it left. -/
theorem run_bind_of_ok {α β : Type} {x : Run α} {f : α → Run β} {s t : Session} {a : α}
    (h : x.run s = (.ok a, t)) : (x >>= f).run s = (f a).run t := by
  have hb : (x >>= f).run s = (match x.run s with
      | (.ok a, t) => (f a).run t
      | (.error r, t) => (.error r, t)) := by
    change (ExceptT.bindCont f _ : StateM Session (Except Raised β)) _ = _
    rcases hx : x.run s with ⟨r, t⟩
    change ExceptT.bindCont f (x.run s).1 (x.run s).2 = _
    rw [hx]
    cases r <;> rfl
  rw [hb, h]

/-- A computation that raises something ends the whole in the state it left. -/
theorem run_bind_of_error {α β : Type} {x : Run α} {f : α → Run β} {s t : Session} {r : Raised}
    (h : x.run s = (.error r, t)) : (x >>= f).run s = (.error r, t) := by
  change ExceptT.bindCont f (x.run s).1 (x.run s).2 = _
  rw [h]
  rfl

end Run

end LenientText
