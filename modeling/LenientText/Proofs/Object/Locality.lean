import LenientText.Lenient.Conversion
import LenientText.Proofs.Session.Coupling

/-!
# What is shown of an object depends on what it refers to

Writing a known object, reading an attribute of it and naming its class come to the same on
both sides of a coupling. Each function looks up known objects only, goes on to objects that
these refer to, and asks by hooks that give or throw known objects.
-/

namespace LenientText

namespace Run

open Overlap

variable {c : Coupling} {o : Obj} {active : List Obj}

/-- Abbreviating an object that is being shown agrees. -/
theorem agrees_once {short : Text} {shown : Run Text} (h : Agrees c (fun _ => True) shown) :
    Agrees c (fun _ => True) (once active o short shown) := by
  unfold once
  split
  · exact agrees_pure trivial
  · exact h

/-- Writing an integer agrees. -/
theorem agrees_integerText (n : Int) : Agrees c (fun _ => True) (integerText n) := by
  unfold integerText
  split
  · exact agrees_pure trivial
  · exact agrees_fail _

/-- A text computed further agrees, as something that may be an object. -/
theorem Agrees.text {x : Run Text} (h : Agrees c (fun _ => True) x) :
    Agrees c c.KnowsEither (TextOrObj.text <$> x) := h.map fun _ _ => trivial

section

variable {inside : List Obj → Obj → Run Text}

/-- Displaying what a known object holds agrees, if displaying known objects inside it
does. -/
theorem agrees_contentDisplay
    (hi : ∀ active o, c.known o → Agrees c (fun _ => True) (inside active o)) (ho : c.known o) :
    Agrees c (fun _ => True) (contentDisplay inside active o) := by
  have hitems : ∀ (active : List Obj) (items : List Obj) (f : List Text → Text),
      (∀ a ∈ items, c.known a) →
      Agrees c (fun _ => True) (do return f (← items.mapM (inside active))) :=
    fun active items f hknown =>
      (agrees_mapM fun a ha => hi active a (hknown a ha)).bind fun _ _ => agrees_pure trivial
  have hcontent : ∀ d ∈ (c.store.content o).references, c.known d :=
    fun d hd => known_of_mem_content ho hd
  refine agrees_get_bind (fun {s t} hst => ?_) fun s hs => ?_
  · dsimp only
    rw [c.store_eq hst, c.otherStore_eq hst, typeOf_eq ho, className_eq (known_typeOf ho),
      isClass_eq ho, classDisplay_eq ho, content_eq ho, shownName_eq (known_typeOf ho)]
    cases o with
    | logger name =>
      dsimp only
      rw [c.display_eq hst ho]
    | _ => rfl
  · dsimp only
    rw [hs]
    split
    · exact agrees_pure trivial
    · exact agrees_pure trivial
    · exact agrees_pure trivial
    · split
      · exact agrees_pure trivial
      · generalize c.store.content o = content at hcontent ⊢
        cases content with
        | bare | exhausted | cls | floating | complexZero | text | bytes | byteArray =>
          exact agrees_pure trivial
        | integer n => exact agrees_integerText n
        | list items | tuple items => exact agrees_once (hitems _ _ _ hcontent)
        | set members =>
          cases members with
          | nil => exact agrees_pure trivial
          | cons => exact agrees_once (hitems _ _ _ hcontent)
        | dictionary entries =>
          refine agrees_once ((agrees_mapM (P := fun _ => True) fun e he => ?_).bind
            fun _ _ => agrees_pure trivial)
          have hkey : c.known e.1 :=
            hcontent _ (List.mem_flatMap.mpr ⟨e, he, List.mem_cons_self⟩)
          have hvalue : c.known e.2 := hcontent _ (List.mem_flatMap.mpr
            ⟨e, he, List.mem_cons_of_mem _ List.mem_cons_self⟩)
          exact (hi _ _ hkey).bind fun _ _ => (hi _ _ hvalue).bind fun _ _ => agrees_pure trivial
        | range start stop step =>
          exact (agrees_mapM fun n _ => agrees_integerText n).bind fun _ _ => agrees_pure trivial
        | exception arguments detail =>
          have harguments : ∀ a ∈ arguments, c.known a :=
            fun a ha => hcontent a (List.mem_append_left _ ha)
          rcases arguments with _ | ⟨a, _ | ⟨b, rest⟩⟩
          · exact agrees_pure trivial
          · exact (hi _ _ (harguments a List.mem_cons_self)).bind fun _ _ => agrees_pure trivial
          · exact (agrees_once (hitems _ _ _ harguments)).bind fun _ _ => agrees_pure trivial

/-- Displaying a known object agrees, if displaying known objects inside it does. -/
theorem agrees_displayWith
    (hi : ∀ active o, c.known o → Agrees c (fun _ => True) (inside active o)) (asked : Form)
    (ho : c.known o) : Agrees c c.KnowsEither (displayWith asked inside active o) := by
  have htype := known_typeOf ho
  refine agrees_store_bind ?_ ?_
  · rw [typeOf_eq ho, displayHook?_eq htype]
  · split
    · next owner script hook =>
      exact agrees_callForText asked rfl (known_of_displayHook? htype hook)
    · exact (agrees_contentDisplay hi ho).text

end

section

variable {inside : Form → List Obj → Obj → Run TextOrObj}

/-- What a plain exception says agrees, if showing its arguments does. -/
theorem agrees_plainExplanation
    (hi : ∀ form active o, c.known o → Agrees c c.KnowsEither (inside form active o))
    {arguments : List Obj} (harguments : ∀ a ∈ arguments, c.known a) :
    Agrees c c.KnowsEither (plainExplanation inside active o arguments) := by
  unfold plainExplanation
  split
  · exact agrees_pure trivial
  · exact hi _ _ _ (harguments _ List.mem_cons_self)
  · refine (agrees_once ?_).text
    exact (agrees_mapM fun a ha => (hi _ _ a (harguments a ha)).plain).bind
      fun _ _ => agrees_pure trivial

/-- Saying something about an exception agrees, if showing what it keeps does. -/
theorem agrees_say
    (hi : ∀ form active o, c.known o → Agrees c c.KnowsEither (inside form active o))
    {arguments : List Obj} (harguments : ∀ a ∈ arguments, c.known a) {saying : Saying}
    (hsaying : ∀ a ∈ saying.objects, c.known a) :
    Agrees c c.KnowsEither (say inside active o arguments saying) := by
  have hs : ∀ form a, c.known a → Agrees c (fun _ => True) (plain (inside form active a)) :=
    fun form a ha => (hi _ _ a ha).plain
  cases saying with
  | arguments => exact agrees_plainExplanation hi harguments
  | form f a => exact hi f active a (hsaying a List.mem_cons_self)
  | text t => exact agrees_pure trivial
  | followed a t =>
    exact (hs _ a (hsaying a List.mem_cons_self)).bind fun _ _ => agrees_pure trivial
  | system number reason files? =>
    have hnumber := hsaying number List.mem_cons_self
    have hreason := hsaying reason (List.mem_cons_of_mem _ List.mem_cons_self)
    refine (hs _ number hnumber).bind fun _ _ => (hs _ reason hreason).bind fun _ _ => ?_
    cases files? with
    | none => exact agrees_pure trivial
    | some names =>
      have hnames : ∀ f ∈ names, c.known f :=
        fun f hf => hsaying f (List.mem_cons_of_mem _ (List.mem_cons_of_mem _ hf))
      exact (agrees_mapM fun f hf => hs _ f (hnames f hf)).bind fun _ _ => agrees_pure trivial
  | coding coding? failure reason =>
    refine (hs _ reason (hsaying reason List.mem_cons_self)).bind fun _ _ => ?_
    have hintro : Agrees c (fun _ => True)
        (codingIntro (fun a => plain (inside .text active a)) coding?) := by
      cases coding? with
      | none => exact agrees_pure trivial
      | some a =>
        have ha := hsaying a (List.mem_cons_of_mem _ List.mem_cons_self)
        exact (hs _ a ha).bind fun _ _ => agrees_pure trivial
    exact hintro.bind fun _ _ => agrees_pure trivial

/-- What an exception says agrees, if showing its arguments and what it keeps besides does. -/
theorem agrees_explanation
    (hi : ∀ form active o, c.known o → Agrees c c.KnowsEither (inside form active o))
    (ho : c.known o) {arguments : List Obj} {detail : Detail}
    (harguments : ∀ a ∈ arguments, c.known a) (hdetail : ∀ a ∈ detail.references, c.known a) :
    Agrees c c.KnowsEither (explanation inside active o arguments detail) := by
  refine agrees_store_bind ?_ (agrees_say hi harguments fun a ha => ?_)
  · rw [saying_eq ho harguments]
  · rcases List.mem_append.mp (mem_of_mem_objects_saying ha) with ha | ha
    · exact harguments a ha
    · exact hdetail a ha

/-- Writing a known object as a text agrees, if showing known objects inside it does. -/
theorem agrees_textWith
    (hi : ∀ form active o, c.known o → Agrees c c.KnowsEither (inside form active o))
    (ho : c.known o) : Agrees c c.KnowsEither (textWith inside active o) := by
  have htype := known_typeOf ho
  have hdisplay : ∀ active o, c.known o →
      Agrees c (fun _ => True) (plain (inside .display active o)) :=
    fun active o ho => (hi _ active o ho).plain
  refine agrees_store_bind ?_ ?_
  · rw [typeOf_eq ho, textHook?_eq htype, content_eq ho]
  · split
    · next owner script hook =>
      exact agrees_callForText .text rfl (known_of_textHook? htype hook)
    · dsimp only
      split
      · split
        · exact agrees_pure ho
        · exact agrees_pure trivial
      · exact (agrees_contentDisplay hdisplay ho).text
      · exact (agrees_contentDisplay hdisplay ho).text
      · next arguments detail h =>
        have hcontent : ∀ d ∈ arguments ++ detail.references, c.known d := by
          intro d hd
          refine known_of_mem_content ho ?_
          rw [h]
          exact hd
        exact agrees_explanation hi ho (fun a ha => hcontent a (List.mem_append_left _ ha))
          fun a ha => hcontent a (List.mem_append_right _ ha)
      · exact agrees_displayWith hdisplay .text ho

end

/-- Showing a known object to any depth agrees. -/
theorem agrees_showWithin (depth : Nat) (form : Form) (active : List Obj) (ho : c.known o) :
    Agrees c c.KnowsEither (showWithin depth form active o) := by
  induction depth generalizing form active o with
  | zero => exact agrees_fail _
  | succ depth ih =>
    have hi : ∀ form active o, c.known o →
        Agrees c c.KnowsEither (showWithin depth form active o) :=
      fun form active o ho => ih form active ho
    cases form with
    | text => exact agrees_textWith hi ho
    | display => exact agrees_displayWith (fun active o ho => (hi _ active o ho).plain) _ ho

/-- Writing a known object agrees. -/
theorem agrees_written (form : Form) (ho : c.known o) : Agrees c c.KnowsEither (written form o) :=
  agrees_showWithin _ _ _ ho

/-- Asking for the text of a known object agrees. -/
theorem agrees_textOf (ho : c.known o) : Agrees c (fun _ => True) (textOf o) :=
  (agrees_written .text ho).plain

/-- Inserting a text or a known object into a message agrees. -/
theorem agrees_inserted {r : TextOrObj} (hr : c.KnowsEither r) :
    Agrees c (fun _ => True) (inserted r) := by
  cases r with
  | text t => exact agrees_pure trivial
  | object o => exact agrees_textOf hr

/-- Reading an attribute of a known object agrees. -/
theorem agrees_read (ho : c.known o) (a : Attribute) : Agrees c c.KnowsEither (read o a) := by
  have htype := known_typeOf ho
  refine agrees_store_bind ?_ ?_
  · rw [typeOf_eq ho, attributeHook?_eq htype, plainReading?_eq ho, noAttribute_eq ho]
  · split
    · next owner script hook =>
      exact (agrees_call rfl (known_of_attributeHook? htype hook)).bind fun p hp => agrees_pure hp
    · split
      · next r hr => exact agrees_pure (knows_of_plainReading? ho hr)
      · exact agrees_fail _

/-- Reading an attribute of a known object that may be missing agrees. -/
theorem agrees_readOr (ho : c.known o) (a : Attribute) {default : TextOrObj}
    (hd : c.KnowsEither default) : Agrees c c.KnowsEither (readOr o a default) :=
  (agrees_read ho a).rescue fun _ _ => agrees_pure hd

/-- Asking a known object for its class agrees. -/
theorem agrees_classOf (ho : c.known o) : Agrees c c.known (classOf o) := by
  have hnull : c.KnowsEither (.object .null) := c.known_null
  have hclaims : Agrees c (fun _ => True) (claims o .type) := by
    refine (agrees_readOr ho .ownClass hnull).bind fun claimed hclaimed =>
      agrees_store_bind ?_ ?_
    · cases claimed with
      | text t => rfl
      | object p =>
        dsimp only
        rw [isClass_eq hclaimed, typeOf_eq ho, derivesFrom_eq hclaimed]
    · split
      · exact agrees_pure trivial
      · exact agrees_pure trivial
  have hinstance : Agrees c (fun _ => True) (isInstance o .type) := by
    refine agrees_store_bind ?_ ?_
    · rw [isA_eq ho]
    · split
      · exact agrees_pure trivial
      · exact hclaims
  refine hinstance.bind fun b _ => ?_
  split
  · exact agrees_pure ho
  · refine agrees_store_bind ?_ (agrees_pure (known_typeOf ho))
    rw [typeOf_eq ho]

/-- Reading a size off a known answer agrees. -/
theorem agrees_sizeFrom (m : Method) {answer : Obj} (h : c.known answer) :
    Agrees c (fun _ => True) (sizeFrom m answer) := by
  refine agrees_store_bind ?_ ?_
  · rw [integer?_eq h, typeName_eq h]
  · split
    · split
      · exact agrees_fail _
      · split
        · exact agrees_fail _
        · exact agrees_pure trivial
    · exact agrees_fail _

/-- Asking a known object for its truth agrees. -/
theorem agrees_truthOf (ho : c.known o) : Agrees c (fun _ => True) (truthOf o) := by
  refine (agrees_askAs _ ho .truth).bind fun answer? hanswer => ?_
  split
  · exact agrees_pure trivial
  · next answer _ =>
    refine agrees_store_bind ?_ (agrees_fail _)
    rw [typeName_eq (hanswer answer rfl)]
  · refine agrees_store_bind ?_ ?_
    · rw [content_eq ho, isTrue_eq ho]
    · split
      · exact agrees_pure trivial
      · refine (agrees_askAs _ ho .length).bind fun answer? hanswer => ?_
        split
        · next answer =>
          exact (agrees_sizeFrom _ (hanswer answer rfl)).bind fun _ _ => agrees_pure trivial
        · exact agrees_pure trivial

/-- The same is true where a plain text may stand for the object. -/
theorem agrees_truthOfEither {r : TextOrObj} (hr : c.KnowsEither r) :
    Agrees c (fun _ => True) (truthOfEither r) := by
  cases r with
  | text t => exact agrees_pure trivial
  | object o => exact agrees_truthOf hr

/-- Asking a known object whether it equals something agrees, if it does so by what it holds
in both stores or in neither. -/
theorem agrees_equals (ho : c.known o) {own : Store → Bool}
    (hown : own c.otherStore = own c.store) : Agrees c (fun _ => True) (equals o own) := by
  refine (agrees_askAs _ ho .equal).bind fun answer? hanswer => ?_
  split
  · next answer => exact agrees_truthOf (hanswer answer rfl)
  · refine agrees_store_bind ?_ ?_
    · rw [hown]
    · exact agrees_pure trivial

/-- Comparing a known object or a text with a text agrees. -/
theorem agrees_equalsText (expected : Text) {r : TextOrObj} (hr : c.KnowsEither r) :
    Agrees c (fun _ => True) (equalsText expected r) := by
  cases r with
  | text t => exact agrees_pure trivial
  | object o => exact agrees_equals hr (by rw [text?_eq hr])

/-- Leading a known name by a known module agrees. -/
theorem agrees_ledBy {module qualified : TextOrObj} (hmodule : c.KnowsEither module)
    (hqualified : c.KnowsEither qualified) : Agrees c c.KnowsEither (ledBy module qualified) := by
  refine (agrees_truthOfEither hmodule).bind fun isTrue _ => ?_
  split
  · exact agrees_pure hqualified
  · refine (agrees_equalsText _ hmodule).bind fun isBasic _ => ?_
    split
    · exact agrees_pure hqualified
    · exact (agrees_inserted hmodule).bind fun _ _ =>
        (agrees_inserted hqualified).bind fun _ _ => agrees_pure trivial

/-- Naming a known class agrees. -/
theorem agrees_qualifiedName (ho : c.known o) : Agrees c c.KnowsEither (qualifiedName o) := by
  have hnull : c.KnowsEither (.object .null) := c.known_null
  exact (agrees_classOf ho).bind fun cls hcls =>
    (agrees_readOr hcls .module hnull).bind fun module hmodule =>
      (agrees_read hcls .name).bind fun name hname =>
        (agrees_readOr hcls .qualifiedName hname).bind fun qualified hqualified =>
          agrees_ledBy hmodule hqualified

/-- Looking at something known that is attached to a warning agrees. -/
theorem agrees_weigh {cause : Raised} (h : c.KnowsRaised cause) :
    Agrees c (fun _ => True) (weigh cause) := by
  cases cause with
  | thrown e =>
    refine (agrees_truthOf h).bind fun isTrue _ => ?_
    split
    · exact agrees_pure trivial
    · refine (agrees_askAs _ h .trail).bind fun trail? _ => ?_
      split <;> exact agrees_pure trivial
  | fault f => exact agrees_pure trivial

/-- Putting a question of a handler to something known agrees. -/
theorem agrees_put {cause : Raised} (h : c.KnowsRaised cause) (q : Question) :
    Agrees c (fun _ => True) (put cause q) := by
  cases cause with
  | fault f => exact agrees_pure trivial
  | thrown e =>
    cases q with
    | truth => exact (agrees_truthOf h).attempt
    | form f => exact (agrees_written f h).attempt
    | ofClass a =>
      have hread : Agrees c c.KnowsEither (do read ((← store).typeOf e) a) := by
        refine agrees_store_bind ?_ (agrees_read (known_typeOf h) a)
        rw [typeOf_eq h]
      exact hread.attempt

/-- Giving the identity form of a known object agrees. -/
theorem agrees_identityText (ho : c.known o) : Agrees c (fun _ => True) (identityText o) := by
  refine agrees_store_bind ?_ ?_
  · rw [typeOf_eq ho]
  · refine (agrees_qualifiedName (known_typeOf ho)).bind fun name hname => ?_
    have hhex : Agrees c (fun _ => True) (identityHex o) :=
      (agrees_identity o).bind fun _ _ => agrees_pure trivial
    exact hhex.bind fun _ _ => (agrees_inserted hname).bind fun _ _ => agrees_pure trivial

end Run

end LenientText
