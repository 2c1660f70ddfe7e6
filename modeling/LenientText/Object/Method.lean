import LenientText.Object.Session

/-!
# Asking objects by their methods

A class may answer for what its instances hold. An object is asked by a method if its
class, or the nearest ancestor that has one, brings such a method along, and then the
answer counts instead of what the object holds. Any object may be the answer; what it
is good for is up to the one who asks.
-/

namespace LenientText

/-- The nearest method of the instances of a class, with the class that has it. -/
def Store.method? (s : Store) (cls : Obj) (m : Method) : Option (Obj × Behaviour) :=
  (s.lineage cls).findSome? fun c =>
    ((s.classInfo? c).bind fun info => info.methods.lookup m).map fun b => (c, b)

namespace Run

/-- Asks an object by a method, if its class has one, and notes the call as that of a
hook. -/
def askAs (hook : Hook) (o : Obj) (m : Method) : Run (Option Obj) := do
  let s ← store
  match s.method? (s.typeOf o) m with
  | some (owner, behaviour) =>
    let _ ← noteCall owner hook
    match behaviour with
    | .gives answer => return some answer
    | .throws e => throw (.thrown e)
  | none => return none

/-- Asks an object by a method, if its class has one. -/
def ask (o : Obj) (m : Method) : Run (Option Obj) := askAs (.method m) o m

end Run

end LenientText
