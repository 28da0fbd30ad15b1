import Understudy.Go.Signature

/-!
# Declarations of a file

* `packageName` is the name in the first package clause.
* `findType` is the first declaration of a type of a given name.
* `elementsOf` are the methods and other elements of an interface.
* `firstVariableType` is the type of the first variable that has one.
-/

set_option autoImplicit false

namespace Understudy.Go

/-- The name that a package clause gives. -/
def clauseName (clause : Node) : Option String :=
  (clause.named.find? (fun n => n.kind = .packageIdentifier)).map Node.text

/-- The name in the first package clause that stands directly in the file. -/
def packageName (file : Node) : Option String :=
  (file.parts.find? (fun n => n.kind = .packageClause)).bind clauseName

/-- Whether the node declares a type of the given name. -/
def declaresType (name : String) (n : Node) : Bool :=
  (n.kind = .typeSpec || n.kind = .typeAlias) &&
    (n.child? .name).any (fun ident => ident.text == name)

/-- The first declaration of a type of the given name, at any depth. -/
def findType (name : String) (file : Node) : Option Node :=
  file.preorder.find? (declaresType name)

/-! ## Elements of an interface -/

/-- What stands in the body of an interface. -/
inductive Element where
  | method (name : String) (signature : Signature)
  | other (kind : Kind) (text : String)
deriving DecidableEq

/-- The element that a child of an interface is, comments and nameless methods aside. -/
def Element.ofNode? (n : Node) : Option Element :=
  match n.kind with
  | .methodElem => (n.child? .name).map (fun ident => .method ident.text (Signature.ofNode n))
  | .comment => none
  | kind => some (.other kind n.text)

/-- The elements of an interface, in order. -/
def elementsOf (body : Node) : List Element := body.named.filterMap Element.ofNode?

/-- What a declaration says about its methods. -/
inductive TypeBody where
  /-- There is no type. -/
  | missing
  /-- The type is not an interface. -/
  | other (kind : Kind)
  | interface (elements : List Element)
deriving DecidableEq

/-- The body of a declared type. -/
def bodyOf (spec : Node) : TypeBody :=
  match spec.child? .type with
  | none => .missing
  | some body =>
    if body.kind = .interfaceType then .interface (elementsOf body) else .other body.kind

/-! ## Variables -/

/-- The type of the first variable declaration, at any depth, that has one. -/
def firstVariableType (file : Node) : Option Node :=
  (file.preorder.filter (fun n => n.kind = .varSpec)).findSome? (Node.child? .type)

end Understudy.Go
