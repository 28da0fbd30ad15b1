import Understudy.Go.TypeShape
import Understudy.Mock

/-!
# Parameters and results

A list of parameters is a row of slots. A slot is one declaration: the names it declares and the
type they share. Each name gives one field, and a slot without names gives one field without a
name.
-/

set_option autoImplicit false

namespace Understudy.Go

/-- A declaration of parameters or results. -/
structure Slot where
  names : List String
  shape : TypeShape
deriving DecidableEq

namespace Slot

/-- The slot that a declaration in a parameter list makes, if it is one. -/
def ofDeclaration? (n : Node) : Option Slot :=
  let names := (n.childrenIn .name).map Node.text
  match n.kind with
  | .parameterDeclaration =>
    match n.child? .type with
    | some type => some ⟨names, type.shape⟩
    | none => some ⟨names, .unsupported n.kind⟩
  | .variadicParameterDeclaration => some ⟨names, .unsupported n.kind⟩
  | _ => none

/-- The slots of a parameter list, or of a result that is a bare type. -/
def ofList (n : Node) : List Slot :=
  if n.kind = .parameterList then n.named.filterMap ofDeclaration? else [⟨[], n.shape⟩]

/-- The slots of a list that may be missing. -/
def ofList? : Option Node → List Slot
  | none => []
  | some n => ofList n

/-- The fields that the slot declares with the given text of its type: one for each name, and one if
there is no name. -/
def fieldsWith (type : String) (s : Slot) : List Field :=
  match s.names with
  | [] => [⟨"", type⟩]
  | names => names.map (fun name => ⟨name, type⟩)

end Slot

/-- The parameters and results of a function. -/
structure Signature where
  receiver : List Slot
  parameters : List Slot
  result : List Slot
deriving DecidableEq

namespace Signature

/-- The signature of a function, a method, or a method of an interface. -/
def ofNode (n : Node) : Signature :=
  ⟨Slot.ofList? (n.child? .receiver), Slot.ofList? (n.child? .parameters),
    Slot.ofList? (n.child? .result)⟩

end Signature

/-- The signatures of the functions and methods that stand directly in a file. -/
def signatures (file : Node) : List Signature :=
  (file.named.filter (fun n =>
    n.kind = .functionDeclaration || n.kind = .methodDeclaration)).map Signature.ofNode

end Understudy.Go
