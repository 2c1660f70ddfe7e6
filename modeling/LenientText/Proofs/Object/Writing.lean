import LenientText.Lenient.Conversion
import LenientText.Proofs.Object.Listing
import LenientText.Proofs.Session.Inspection

/-!
# Writing objects is an inspection

Whatever an object is, asking for its text or its display form is an inspection: it calls
hooks and does nothing else, so objects, identities, loggers and warnings stay the same,
and what it raises was thrown by a hook or is a fault of looking. The same is true of
reading attributes, of naming classes and of measuring objects. Listing an object may make
new objects, but has nothing to do with logging either.
-/

namespace LenientText.Run

open Session

/-- Abbreviating an object that is being shown has no effect of its own. -/
theorem isInspection_once {active : List Obj} {o : Obj} {short : Text} {shown : Run Text}
    (h : IsInspection shown) : IsInspection (once active o short shown) := by
  unfold once
  split
  · exact .pure short
  · exact h

/-- Writing an integer has no effect. -/
theorem isInspection_integerText (n : Int) : IsInspection (integerText n) := by
  unfold integerText
  split
  · exact .pure _
  · exact .fail rfl

section

variable {inside : List Obj → Obj → Run Text}

/-- Displaying what an object holds is an inspection, if displaying the objects inside
it does. -/
theorem isInspection_contentDisplay (hi : ∀ active o, IsInspection (inside active o))
    (active : List Obj) (o : Obj) : IsInspection (contentDisplay inside active o) := by
  have hitems : ∀ (active : List Obj) (items : List Obj) (f : List Text → Text),
      IsInspection (do return f (← items.mapM (inside active))) :=
    fun active items f => (IsInspection.mapM (hi active)).bind fun _ => .pure _
  refine IsInspection.get.bind fun s => ?_
  dsimp only
  split
  · exact .pure _
  · exact .pure _
  · exact .pure _
  · split
    · exact .pure _
    · split
      · exact .pure _
      · exact .pure _
      · exact .pure _
      · exact isInspection_integerText _
      · exact .pure _
      · exact .pure _
      · exact .pure _
      · exact .pure _
      · exact .pure _
      · exact isInspection_once (hitems _ _ _)
      · exact isInspection_once (hitems _ _ _)
      · exact .pure _
      · exact isInspection_once (hitems _ _ _)
      · refine isInspection_once ((IsInspection.mapM fun e => ?_).bind fun _ => .pure _)
        exact (hi _ _).bind fun _ => (hi _ _).bind fun _ => .pure _
      · exact (IsInspection.mapM isInspection_integerText).bind fun _ => .pure _
      · exact .pure _
      · exact (hi _ _).bind fun _ => .pure _
      · exact (isInspection_once (hitems _ _ _)).bind fun _ => .pure _

/-- Displaying an object is an inspection, if displaying the objects inside it does. -/
theorem isInspection_displayWith (hi : ∀ active o, IsInspection (inside active o)) (asked : Form)
    (active : List Obj) (o : Obj) : IsInspection (displayWith asked inside active o) := by
  refine IsInspection.store.bind fun s => ?_
  split
  · exact IsInspection.callForText _ _ _ _
  · exact (isInspection_contentDisplay hi active o).map _

end

section

variable {inside : Form → List Obj → Obj → Run TextOrObj}

/-- What a plain exception says is an inspection, if showing its arguments does. -/
theorem isInspection_plainExplanation (hi : ∀ form active o, IsInspection (inside form active o))
    (active : List Obj) (o : Obj) (arguments : List Obj) :
    IsInspection (plainExplanation inside active o arguments) := by
  unfold plainExplanation
  split
  · exact .pure _
  · exact hi _ _ _
  · refine (isInspection_once ?_).map _
    exact (IsInspection.mapM fun a => (hi _ _ a).plain).bind fun _ => .pure _

/-- Saying something about an exception is an inspection, if showing objects is. -/
theorem isInspection_say (hi : ∀ form active o, IsInspection (inside form active o))
    (active : List Obj) (o : Obj) (arguments : List Obj) (saying : Saying) :
    IsInspection (say inside active o arguments saying) := by
  have hs : ∀ form a, IsInspection (plain (inside form active a)) := fun form a => (hi _ _ a).plain
  cases saying with
  | arguments => exact isInspection_plainExplanation hi active o arguments
  | form f a => exact hi f active a
  | text t => exact .pure _
  | followed a t => exact (hs _ a).bind fun _ => .pure _
  | system number reason files? =>
    refine (hs _ number).bind fun _ => (hs _ reason).bind fun _ => ?_
    cases files? with
    | none => exact .pure _
    | some names => exact (IsInspection.mapM fun f => hs _ f).bind fun _ => .pure _
  | coding coding? failure reason =>
    refine (hs _ reason).bind fun _ => IsInspection.bind ?_ fun _ => .pure _
    cases coding? with
    | none => exact .pure _
    | some c => exact (hs _ c).bind fun _ => .pure _

/-- What an exception says is an inspection, if showing its arguments is. -/
theorem isInspection_explanation (hi : ∀ form active o, IsInspection (inside form active o))
    (active : List Obj) (o : Obj) (arguments : List Obj) (detail : Detail) :
    IsInspection (explanation inside active o arguments detail) :=
  IsInspection.store.bind fun _ => isInspection_say hi active o arguments _

/-- Writing an object as a text is an inspection, if showing the objects inside it
does. -/
theorem isInspection_textWith (hi : ∀ form active o, IsInspection (inside form active o))
    (active : List Obj) (o : Obj) : IsInspection (textWith inside active o) := by
  have hdisplay : ∀ active o, IsInspection (plain (inside .display active o)) :=
    fun active o => (hi _ active o).plain
  refine IsInspection.store.bind fun s => ?_
  split
  · exact IsInspection.callForText _ _ _ _
  · dsimp only
    split
    · exact .pure _
    · exact (isInspection_contentDisplay hdisplay _ _).map _
    · exact (isInspection_contentDisplay hdisplay _ _).map _
    · exact isInspection_explanation hi _ _ _ _
    · exact isInspection_displayWith hdisplay _ _ _

end

/-- Showing an object to any depth is an inspection. -/
theorem isInspection_showWithin (depth : Nat) (form : Form) (active : List Obj) (o : Obj) :
    IsInspection (showWithin depth form active o) := by
  induction depth generalizing form active o with
  | zero => exact .fail rfl
  | succ depth ih =>
    cases form with
    | text => exact isInspection_textWith ih active o
    | display => exact isInspection_displayWith (fun active o => (ih _ active o).plain) _ active o

/-- Writing an object is an inspection. -/
theorem isInspection_written (form : Form) (o : Obj) : IsInspection (written form o) :=
  isInspection_showWithin _ _ _ _

/-- Asking for the text of an object is an inspection. -/
theorem isInspection_textOf (o : Obj) : IsInspection (textOf o) := (isInspection_written _ o).plain

/-- Inserting a text or an object into a message is an inspection. -/
theorem isInspection_inserted (r : TextOrObj) : IsInspection (inserted r) := by
  cases r with
  | text t => exact .pure t
  | object o => exact isInspection_textOf o

/-- The fault of a missing attribute is one of looking. -/
theorem isOfInspection_noAttribute (s : Store) (o : Obj) (spelling : Text) :
    (s.noAttribute o spelling).isOfInspection = true := by
  unfold Store.noAttribute
  split <;> rfl

/-- Reading an attribute is an inspection. -/
theorem isInspection_read (o : Obj) (a : Attribute) : IsInspection (read o a) := by
  refine IsInspection.store.bind fun s => ?_
  split
  · exact (IsInspection.call _ _ _).bind fun _ => .pure _
  · split
    · exact .pure _
    · exact .fail (isOfInspection_noAttribute s o _)

/-- Reading an attribute that may be missing is an inspection. -/
theorem isInspection_readOr (o : Obj) (a : Attribute) (default : TextOrObj) :
    IsInspection (readOr o a default) :=
  (isInspection_read o a).rescue fun _ => .pure default

/-- Asking an object for its class is an inspection. -/
theorem isInspection_isInstance (o : Obj) (k : KnownClass) : IsInspection (isInstance o k) := by
  have hclaims : IsInspection (claims o k) := by
    refine (isInspection_readOr _ _ _).bind fun claimed => IsInspection.store.bind fun s => ?_
    split
    · exact .pure _
    · exact .pure _
  refine IsInspection.store.bind fun s => ?_
  split
  · exact .pure true
  · exact hclaims

/-- Reading a size off an answer is an inspection. -/
theorem isInspection_sizeFrom (m : Method) (answer : Obj) : IsInspection (sizeFrom m answer) := by
  refine IsInspection.store.bind fun s => ?_
  split
  · split
    · exact .fail rfl
    · split
      · exact .fail rfl
      · exact .pure _
  · exact .fail rfl

/-- Asking an object for its length is an inspection. -/
theorem isInspection_lengthOf (o : Obj) : IsInspection (lengthOf o) := by
  refine (IsInspection.askAs _ o .length).bind fun answer? => ?_
  split
  · exact isInspection_sizeFrom _ _
  · refine IsInspection.store.bind fun s => ?_
    split
    · exact .pure _
    · exact .fail rfl

/-- Asking an object for the whole number that it is is an inspection. -/
theorem isInspection_wholeNumberOf (o : Obj) (mismatch : Text → Mismatch) :
    IsInspection (wholeNumberOf o mismatch) := by
  refine IsInspection.store.bind fun s => ?_
  split
  · exact .pure _
  · exact .fail rfl

/-- Asking an object for its truth is an inspection. -/
theorem isInspection_truthOf (o : Obj) : IsInspection (truthOf o) := by
  refine (IsInspection.askAs _ o .truth).bind fun answer? => ?_
  split
  · exact .pure _
  · exact IsInspection.store.bind fun s => .fail rfl
  · refine IsInspection.store.bind fun s => ?_
    split
    · exact .pure _
    · refine (IsInspection.askAs _ o .length).bind fun answer? => ?_
      split
      · exact (isInspection_sizeFrom _ _).bind fun _ => .pure _
      · exact .pure _

/-- The same is true where a plain text may stand for the object. -/
theorem isInspection_truthOfEither (r : TextOrObj) : IsInspection (truthOfEither r) := by
  cases r with
  | text t => exact .pure _
  | object o => exact isInspection_truthOf o

/-- Asking an object for its order to a number is an inspection. -/
theorem isInspection_ordered (o : Obj) (m : Method) (holds : Int → Bool)
    (mismatch : Text → Mismatch) : IsInspection (ordered o m holds mismatch) := by
  refine (IsInspection.askAs _ o m).bind fun answer? => ?_
  split
  · exact .pure _
  · exact (isInspection_wholeNumberOf o mismatch).bind fun _ => .pure _

/-- Asking an object whether it equals something is an inspection. -/
theorem isInspection_equals (o : Obj) (own : Store → Bool) : IsInspection (equals o own) := by
  refine (IsInspection.askAs _ o .equal).bind fun answer? => ?_
  split
  · exact isInspection_truthOf _
  · exact IsInspection.store.bind fun s => .pure _

/-- The same is true where a plain text may stand for the object. -/
theorem isInspection_equalsText (expected : Text) (r : TextOrObj) :
    IsInspection (equalsText expected r) := by
  cases r with
  | text t => exact .pure _
  | object o => exact isInspection_equals o _

/-- Leading a name by its module is an inspection. -/
theorem isInspection_ledBy (module qualified : TextOrObj) :
    IsInspection (ledBy module qualified) := by
  refine (isInspection_truthOfEither _).bind fun isTrue => ?_
  split
  · exact .pure _
  · refine (isInspection_equalsText _ _).bind fun isBasic => ?_
    split
    · exact .pure _
    · exact (isInspection_inserted _).bind fun _ => (isInspection_inserted _).bind fun _ => .pure _

/-- Naming a class is an inspection. -/
theorem isInspection_qualifiedName (o : Obj) : IsInspection (qualifiedName o) := by
  have hclass : IsInspection (classOf o) := by
    refine (isInspection_isInstance _ _).bind fun b => ?_
    split
    · exact .pure o
    · exact IsInspection.store.bind fun s => .pure _
  exact hclass.bind fun c => (isInspection_readOr _ _ _).bind fun module =>
    (isInspection_read _ _).bind fun name => (isInspection_readOr _ _ _).bind fun qualified =>
      isInspection_ledBy _ _

/-- Looking at what is attached to a warning is an inspection. -/
theorem isInspection_weigh (cause : Raised) : IsInspection (weigh cause) := by
  cases cause with
  | thrown e =>
    refine (isInspection_truthOf e).bind fun isTrue => ?_
    split
    · exact .pure _
    · refine (IsInspection.askAs _ e .trail).bind fun trail? => ?_
      split <;> exact .pure _
  | fault f => exact .pure _

/-- Putting a question of a handler is an inspection. -/
theorem isInspection_put (cause : Raised) (q : Question) : IsInspection (put cause q) := by
  cases cause with
  | fault f => exact .pure ()
  | thrown e =>
    cases q with
    | truth => exact (isInspection_truthOf e).attempt
    | form f => exact (isInspection_written f e).attempt
    | ofClass a => exact (IsInspection.store.bind fun s => isInspection_read _ a).attempt

/-- Listing an object has nothing to do with logging. -/
theorem within_itemsOf (o : Obj) : Within SameLogging (itemsOf o) := by
  intro s
  rw [run_itemsOf]
  cases s.store.listed s.capacity o with
  | ok items | error e => exact ⟨rfl, rfl⟩

end LenientText.Run
