import Understudy.Failure
import Understudy.Files.Path
import Understudy.Options

/-!
# The package of the generated file

It is the package that is asked for, or else the name of the directory of the output file.
-/

set_option autoImplicit false

namespace Understudy

open Files

/-- The name of the directory that an output file lies in. -/
def derivedPackage (cwd output : OsText) : Except Failure String :=
  match Path.absolute cwd output with
  | .error e => .error (.io e)
  | .ok path =>
    match ((Path.parent? path).bind Path.fileName?).bind OsText.toStr? with
    | some name => .ok name
    | none => .error (.noPackageName output)

/-- The package of the generated file. -/
def Options.genPackage (cwd : OsText) (o : Options) : Except Failure String :=
  match o.package with
  | some package => .ok package
  | none => derivedPackage cwd o.output

end Understudy
