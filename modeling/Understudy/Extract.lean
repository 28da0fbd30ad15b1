import Understudy.Attempt
import Understudy.Go.Declaration
import Understudy.Go.Grammar.File
import Understudy.Go.ImportSpec

/-!
# The interface of a source file

What a source file by itself contributes to a mock: its package, the methods of the interface and
its imports. The package is looked for first, then the interface, then the imports. What a mock
cannot take over is reported where it is met.

* `renderType` writes a type.
* `methodsIn` are the methods of a declared type.
* `extract` is all that a file contributes.
-/

set_option autoImplicit false

namespace Understudy

open Files Go

/-- The syntax tree of a source text, from the given file if it is known. -/
def parseSource (file : Option OsText) (source : String) : Except Failure Node :=
  match parse source with
  | some tree => .ok tree
  | none => .error (.source file .syntaxErrors)

/-- The package that a file belongs to. -/
def packageOf (file : Node) : Except Failure String :=
  match packageName file with
  | some name => .ok name
  | none => .error (.source none .noPackageClause)

/-- The imports of a file. -/
def importsIn (file : Node) : Except Failure (List Import) :=
  match Go.imports file with
  | .ok is => .ok is
  | .error .noPath => .error (.source none .noImportPath)
  | .error (.badPath literal e) => .error (.badImport literal e)

/-! ## Types -/

/-- The text of a type in the declarations of `package`. A type that cannot be named is reported. -/
def renderType (package : String) (shape : TypeShape) : Attempt String := do
  Attempt.report (shape.unsupported?.toList.map .unhandledType)
  return qualify package shape.text

/-- The fields of a list of parameters or results. -/
def renderFields (package : String) : List Slot → Attempt (List Field)
  | [] => return []
  | s :: slots => do
    let type ← renderType package s.shape
    let rest ← renderFields package slots
    return s.fieldsWith type ++ rest

/-! ## Methods -/

/-- The method that an element of an interface declares, if it declares one. -/
def renderElement (package : String) : Element → Attempt (Option Method)
  | .method name s => do
    let input ← renderFields package s.parameters
    let output ← renderFields package s.result
    Attempt.report [.foundMethod name input.length output.length]
    return some ⟨name, input, output⟩
  | .other kind text => do
    Attempt.report [.skippedElement kind text]
    return none

/-- The methods that the elements of an interface declare. -/
def renderElements (package : String) : List Element → Attempt (List Method)
  | [] => return []
  | e :: elements => do
    let method ← renderElement package e
    let rest ← renderElements package elements
    return method.toList ++ rest

/-- Type parameters have no place in a mock, and are only reported. -/
def reportParameters (spec : Node) : Attempt Unit :=
  match spec.child? .typeParameters with
  | some params => Attempt.report [.ignoredTypeParameters params.text]
  | none => return

/-- The methods of a declared type: none, if it is not an interface. -/
def methodsIn (package : String) (spec : Node) : Attempt (List Method) := do
  reportParameters spec
  match bodyOf spec with
  | .missing => return []
  | .other kind =>
    Attempt.report [.notInterface kind]
    return []
  | .interface elements => renderElements package elements

/-- The methods of the interface in a file. -/
def targetMethods (package : String) (file : Node) : Attempt (List Method) :=
  match findType targetName file with
  | some spec => methodsIn package spec
  | none => .fail .noTarget

/-! ## The whole file -/

/-- What a file by itself contributes to a mock. The package of the generated file and the import
path of the interface's package are left empty. -/
def extract (file : Node) : Attempt Mock := do
  let package ← Attempt.ofExcept (packageOf file)
  let methods ← targetMethods package file
  let imports ← Attempt.ofExcept (importsIn file)
  return { genPackage := "", modelPath := "", package, structName := mockName, imports, methods }

end Understudy
