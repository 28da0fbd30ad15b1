import Understudy.Go.Node
import Understudy.Text.Pattern

/-!
# The text of a type

A type that a mock can name is a name, with or without a package, under any stack of slices,
arrays and pointers. Arrays lose their length. Every other type is shown by a sentinel that names
its kind, so that it is noticed in the generated file.

An exported name without a package belongs to the package that declares the interface, and is
written with it.

* `Node.shape` is what remains of a type expression.
* `TypeShape.text` writes it.
* `qualify` puts the package in front of an exported name, which it finds by a pattern.
* `typeText` is all of these together.
-/

set_option autoImplicit false

namespace Understudy.Go

open Text

/-- A type as far as a mock can name it. -/
inductive TypeShape where
  | named (text : String)
  | slice (element : TypeShape)
  | pointer (target : TypeShape)
  | unsupported (kind : Kind)
deriving DecidableEq

namespace TypeShape

/-- What is written for a type of a kind that cannot be named. -/
def sentinel (kind : Kind) : String := "<error_unhandled_" ++ kind.name ++ ">"

/-- The text of the type. -/
def text : TypeShape → String
  | named t => t
  | slice e => "[]" ++ e.text
  | pointer t => "*" ++ t.text
  | unsupported k => sentinel k

/-- The kind that cannot be named, below the slices and pointers, if there is one. -/
def unsupported? : TypeShape → Option Kind
  | named _ => none
  | slice e => e.unsupported?
  | pointer t => t.unsupported?
  | unsupported k => some k

end TypeShape

/-! ## From syntax trees -/

/-- The shape of a name with its package. -/
def qualifiedShape (n : Node) : TypeShape :=
  match n.child? .package, n.child? .name with
  | some package, some name => .named (package.text ++ "." ++ name.text)
  | _, _ => .unsupported n.kind

mutual

/-- The shape of a type expression. -/
def Node.shape : Node → TypeShape
  | .leaf _ kind text => if kind = .typeIdentifier then .named text else .unsupported kind
  | .tree role kind parts =>
    match kind with
    | .typeIdentifier => .named (Node.textOfAll parts)
    | .qualifiedType => qualifiedShape (.tree role kind parts)
    | .sliceType | .arrayType =>
      match elementShape parts with
      | some e => .slice e
      | none => .unsupported kind
    | .pointerType =>
      match targetShape parts with
      | some t => .pointer t
      | none => .unsupported kind
    | _ => .unsupported kind

/-- The shape of the first of the nodes that is an element. -/
def elementShape : List Node → Option TypeShape
  | [] => none
  | n :: ns => if n.role == some .element then some n.shape else elementShape ns

/-- The shape of the first of the nodes that is named. -/
def targetShape : List Node → Option TypeShape
  | [] => none
  | n :: ns => if n.isNamed then some n.shape else targetShape ns

end

/-! ## Exported names -/

/-- All but the letters and digits of ASCII, `[^A-Za-z0-9]`. -/
def otherThanAlphanumeric : CharClass := ⟨[('A', 'Z'), ('a', 'z'), ('0', '9')], true⟩

/-- The capitals of ASCII, `[A-Z]`. -/
def capital : CharClass := ⟨[('A', 'Z')], false⟩

/-- All but the dot, `[^.]`. -/
def otherThanDot : CharClass := ⟨[('.', '.')], true⟩

/-- An exported name without a package, behind what is no letter or digit:
`^([^A-Za-z0-9]*)([A-Z][^.]*)$`. -/
def needsPackage : Pattern :=
  .seq .start (.seq (.group 1 (.many (.one otherThanAlphanumeric)))
    (.seq (.group 2 (.seq (.one capital) (.many (.one otherThanDot)))) .stop))

/-- The characters of a type with `package` and a dot between the groups of the pattern, where it
matches. -/
def qualifyChars (package cs : List Char) : List Char :=
  match needsPackage.captures cs with
  | some groups => Pattern.groupText groups 1 ++ package ++ '.' :: Pattern.groupText groups 2
  | none => cs

/-- The text of a type with the package in front of an exported name. -/
def qualify (package text : String) : String :=
  String.ofList (qualifyChars package.toList text.toList)

/-- The text of a type expression in the declarations of `package`. -/
def typeText (package : String) (n : Node) : String := qualify package n.shape.text

end Understudy.Go
