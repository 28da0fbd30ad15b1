import Understudy.Extract

/-!
# What is rendered, and what is reported

Rendering types and methods never fails. The results by themselves are values of the slots and
elements, and what is reported depends on the types that cannot be named and on nothing else about
the package.

* `Slot.fields`, `fieldsOf`, `methodsOf`: the results.
* `elementNotices`, `specNotices`: the reports.
* `methodsIn_eq`: both together.
* `extract_eq`: what comes of a file.
-/

set_option autoImplicit false

namespace Understudy

open Go

namespace Attempt
variable {α β : Type}

theorem pure_eq (a : α) : (pure a : Attempt α) = ⟨[], .ok a⟩ := rfl

theorem report_eq (ns : List Notice) : Attempt.report ns = ⟨ns, .ok ()⟩ := rfl

theorem ok_bind (ns : List Notice) (a : α) (f : α → Attempt β) :
    ((⟨ns, .ok a⟩ : Attempt α) >>= f) = ⟨ns ++ (f a).notices, (f a).outcome⟩ := rfl

end Attempt

/-! ## Results -/

namespace Go

/-- The text of the slot's type in the declarations of `package`. -/
def Slot.typeText (package : String) (s : Slot) : String := qualify package s.shape.text

/-- The fields that the slot declares. -/
def Slot.fields (package : String) (s : Slot) : List Field := s.fieldsWith (s.typeText package)

/-- The fields of a list of parameters or results. -/
def fieldsOf (package : String) (slots : List Slot) : List Field :=
  slots.flatMap (Slot.fields package)

/-- The method that an element declares in an interface of `package`. -/
def Element.method? (package : String) : Element → Option Method
  | .method name s => some ⟨name, fieldsOf package s.parameters, fieldsOf package s.result⟩
  | .other _ _ => none

/-- The methods of a declared type. -/
def methodsOf (package : String) (spec : Node) : List Method :=
  match bodyOf spec with
  | .interface elements => elements.filterMap (Element.method? package)
  | _ => []

/-- The kinds of the slots' types that cannot be named. -/
def unsupportedIn (slots : List Slot) : List Kind :=
  slots.filterMap (fun s => s.shape.unsupported?)

end Go

/-! ## Reports -/

/-- The notices about an element of the interface. -/
def elementNotices : Element → List Notice
  | .method name s =>
    (unsupportedIn s.parameters ++ unsupportedIn s.result).map .unhandledType ++
      [.foundMethod name (fieldsOf "" s.parameters).length (fieldsOf "" s.result).length]
  | .other kind text => [.skippedElement kind text]

/-- The notices about the body of the declared type. -/
def bodyNotices : TypeBody → List Notice
  | .missing => []
  | .other kind => [.notInterface kind]
  | .interface elements => elements.flatMap elementNotices

/-- The notices about type parameters. -/
def parameterNotices (spec : Node) : List Notice :=
  match spec.child? .typeParameters with
  | some params => [.ignoredTypeParameters params.text]
  | none => []

/-- The notices about a declared type. -/
def specNotices (spec : Node) : List Notice := parameterNotices spec ++ bodyNotices (bodyOf spec)

/-! ## Both together -/

section
variable (package : String)

theorem length_fields (package' : String) (s : Slot) :
    (s.fields package).length = (s.fields package').length := by
  unfold Slot.fields Slot.fieldsWith
  split
  · rfl
  · rw [List.length_map, List.length_map]

/-- How many fields there are does not depend on the package. -/
theorem length_fieldsOf_eq (package' : String) (slots : List Slot) :
    (fieldsOf package slots).length = (fieldsOf package' slots).length := by
  induction slots with
  | nil => rfl
  | cons s slots ih =>
    simp only [fieldsOf, List.flatMap_cons, List.length_append] at ih ⊢
    rw [length_fields package package' s, ih]

theorem renderType_eq (shape : TypeShape) : renderType package shape =
    ⟨shape.unsupported?.toList.map .unhandledType, .ok (qualify package shape.text)⟩ := by
  rw [renderType, Attempt.report_eq, Attempt.ok_bind, Attempt.pure_eq, List.append_nil]

theorem renderFields_eq (slots : List Slot) : renderFields package slots =
    ⟨(unsupportedIn slots).map .unhandledType, .ok (fieldsOf package slots)⟩ := by
  induction slots with
  | nil => rfl
  | cons s slots ih =>
    have hkinds : unsupportedIn (s :: slots) =
        s.shape.unsupported?.toList ++ unsupportedIn slots := by
      rw [unsupportedIn, List.filterMap_cons]
      cases s.shape.unsupported? <;> rfl
    rw [renderFields, renderType_eq, ih, Attempt.ok_bind, Attempt.ok_bind, Attempt.pure_eq,
      List.append_nil, ← List.map_append, ← hkinds]
    rfl

theorem renderElement_eq (e : Element) : renderElement package e =
    ⟨elementNotices e, .ok (e.method? package)⟩ := by
  cases e with
  | method name s =>
    rw [renderElement, renderFields_eq, renderFields_eq, Attempt.ok_bind, Attempt.ok_bind,
      Attempt.report_eq, Attempt.ok_bind, Attempt.pure_eq, List.append_nil, ← List.append_assoc,
      ← List.map_append, length_fieldsOf_eq package "", length_fieldsOf_eq package ""]
    rfl
  | other kind text => rfl

theorem renderElements_eq (elements : List Element) : renderElements package elements =
    ⟨elements.flatMap elementNotices, .ok (elements.filterMap (Element.method? package))⟩ := by
  induction elements with
  | nil => rfl
  | cons e elements ih =>
    rw [renderElements, renderElement_eq, ih, Attempt.ok_bind, Attempt.ok_bind, Attempt.pure_eq,
      List.append_nil, List.filterMap_cons]
    cases e.method? package <;> rfl

/-- **The methods of a declared type are read without fail**, with these notices. -/
theorem methodsIn_eq (spec : Node) :
    methodsIn package spec = ⟨specNotices spec, .ok (methodsOf package spec)⟩ := by
  have hparameters : reportParameters spec = ⟨parameterNotices spec, .ok ()⟩ := by
    rw [reportParameters, parameterNotices]
    cases spec.child? .typeParameters <;> rfl
  rw [methodsIn, hparameters, Attempt.ok_bind, specNotices, methodsOf]
  cases bodyOf spec with
  | missing | other _ => rfl
  | interface elements =>
    simp only [renderElements_eq]
    rfl

end

/-- **Extraction, step by step**: the package, the interface, the imports. -/
theorem extract_eq (file : Node) : (extract file).outcome =
    match packageName file with
    | none => .error (.source none .noPackageClause)
    | some package =>
      match findType targetName file with
      | none => .error .noTarget
      | some spec =>
        match importsIn file with
        | .error e => .error e
        | .ok is => .ok ⟨"", "", package, mockName, is, methodsOf package spec⟩ := by
  cases hp : packageName file with
  | none => simp [extract, packageOf, hp, bind, Attempt.andThen, Attempt.ofExcept]
  | some package =>
    cases hs : findType targetName file with
    | none =>
      simp [extract, packageOf, hp, hs, targetMethods, bind, Attempt.andThen, Attempt.ofExcept,
        Attempt.fail]
    | some spec =>
      cases hi : importsIn file <;>
        simp [extract, packageOf, hp, hs, hi, targetMethods, methodsIn_eq, bind, pure,
          Attempt.andThen, Attempt.ofExcept, Attempt.ok]

end Understudy
