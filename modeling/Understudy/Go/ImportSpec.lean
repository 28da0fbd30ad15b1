import Understudy.Go.Node
import Understudy.Go.StringLiteral
import Understudy.Mock

/-!
# Imports of a file

The import specifications that stand directly in a file, alone or in groups, in source order.
-/

set_option autoImplicit false

namespace Understudy.Go

/-- Why an import has no path. -/
inductive ImportError where
  | noPath
  | badPath (literal : String) (cause : LiteralError)
deriving DecidableEq

/-- The import specifications of an import declaration. -/
def specsOfDeclaration (decl : Node) : List Node :=
  decl.named.flatMap (fun n =>
    match n.kind with
    | .importSpec => [n]
    | .importSpecList => n.named.filter (fun spec => spec.kind = .importSpec)
    | _ => [])

/-- The import specifications of a file. -/
def importSpecs (file : Node) : List Node :=
  (file.named.filter (fun n => n.kind = .importDeclaration)).flatMap specsOfDeclaration

/-- What an import specification imports. Its name is copied as written. -/
def importOf (spec : Node) : Except ImportError Import :=
  match spec.child? .path with
  | none => .error .noPath
  | some path =>
    match unquote path.text with
    | .error e => .error (.badPath path.text e)
    | .ok value => .ok ⟨value, ((spec.child? .name).map Node.text).getD ""⟩

/-- The imports of the specifications, or the fault of the first one that has one. -/
def importsOf : List Node → Except ImportError (List Import)
  | [] => .ok []
  | spec :: specs =>
    match importOf spec with
    | .error e => .error e
    | .ok i =>
      match importsOf specs with
      | .error e => .error e
      | .ok is => .ok (i :: is)

/-- The imports of a file. -/
def imports (file : Node) : Except ImportError (List Import) := importsOf (importSpecs file)

end Understudy.Go
