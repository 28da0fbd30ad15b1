import Understudy.Files.OsError
import Understudy.Files.OsText
import Understudy.Go.StringLiteral
import Understudy.Module.GoMod
import Understudy.Template.Error

/-!
# Why no mock is made

The causes for which a run ends without a generated file, with their wording.

* `Failure.message` is the wording.
* `Failure.cause?` is the wording of the cause behind it, where there is one.
-/

set_option autoImplicit false

namespace Understudy

open Files Go GoMod

/-- Why a formatter gives no result. -/
inductive FormatFailure where
  /-- The program cannot be started. -/
  | notStarted (program : String) (cause : OsError)
  /-- The program ended with a status other than success and said nothing. -/
  | ended (program status : String)
  /-- What the formatter said. -/
  | rejected (text : String)
deriving DecidableEq, Repr

/-- The wording of each cause. -/
def FormatFailure.message : FormatFailure → String
  | .notStarted program e => "failed to run " ++ program ++ ": " ++ e.message
  | .ended program status => program ++ " exited with " ++ status
  | .rejected text => text

/-- Why a source file cannot be used. -/
inductive SourceFault where
  | syntaxErrors
  | noPackageClause
  | noImportPath
deriving DecidableEq

/-- The wording of each cause. -/
def SourceFault.message : SourceFault → String
  | .syntaxErrors => "source contains syntax errors"
  | .noPackageClause => "missing package clause"
  | .noImportPath => "import without a path"

/-- Why the import path of a package is not known. -/
inductive ModuleFault where
  | noParent (path : OsText)
  | noModule (dir : OsText)
  /-- The module file, if it is known which one, declares no module. -/
  | badModule (file : Option OsText) (cause : GoModError)
  /-- The directory does not lie below that of the module. -/
  | notBelow (dir : OsText)
deriving DecidableEq

/-- The text with the name of a file in front, where there is one. -/
def located (file : Option OsText) (text : String) : String :=
  match file with
  | some f => f.lossy ++ ": " ++ text
  | none => text

/-- The wording of each cause. -/
def ModuleFault.message : ModuleFault → String
  | .noParent path => path.lossy ++ " has no parent directory"
  | .noModule dir => "no go.mod found in " ++ dir.lossy ++ " or any parent directory"
  | .badModule file e => located file e.message
  | .notBelow dir => dir.lossy ++ ": prefix not found"

/-- Why no mock is made. -/
inductive Failure where
  | io (cause : OsError)
  | unreadable (path : OsText) (cause : OsError)
  /-- The source, from the given file if it is known, cannot be used. -/
  | source (file : Option OsText) (fault : SourceFault)
  | badImport (literal : String) (cause : LiteralError)
  | noTarget
  | module (fault : ModuleFault)
  | noPackageName (output : OsText)
  | unreadableTemplate (path : OsText) (cause : OsError)
  | templateSyntax (error : Template.Error)
  | templateRender (error : Template.Error)
  | format (cause : FormatFailure)
deriving DecidableEq

namespace Failure

/-- The wording of each cause. The details of a template's faults are its sort and line, which are
not part of the text. -/
def message : Failure → String
  | io e => "IO error: " ++ e.message
  | unreadable path e => "Failed to read " ++ path.lossy ++ ": " ++ e.message
  | source file fault => "Parse error: " ++ located file fault.message
  | badImport literal e => "Invalid import path " ++ literal ++ ": " ++ e.message
  | noTarget => "no Querier found"
  | module fault => "Module resolution error: " ++ fault.message
  | noPackageName output =>
    "Configuration error: cannot derive a package name from output path " ++ output.lossy
  | unreadableTemplate path e => "Failed to open template file " ++ path.lossy ++ ": " ++ e.message
  | templateSyntax _ => "Template syntax error"
  | templateRender _ => "Template execution error"
  | format e => "Failed to format source: " ++ e.message

/-- The wording of the cause behind a failure, where it has one of its own. -/
def cause? : Failure → Option String
  | io e => some e.message
  | unreadable _ e => some e.message
  | unreadableTemplate _ e => some e.message
  | _ => none

/-- Whether the source simply has no interface to make a mock for. -/
def isMissingTarget : Failure → Bool
  | noTarget => true
  | _ => false

end Failure

end Understudy
