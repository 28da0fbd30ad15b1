import Understudy.Extract
import Understudy.Files.Change
import Understudy.Formatter
import Understudy.Mock.Render
import Understudy.Module.Location
import Understudy.PackageName

/-!
# Generating mocks

From the options to the generated file. The source file is read and parsed first; then the package
of the generated file and the import path of the interface's package are found; then the template
is loaded and evaluated and the result formatted. Only after all this has succeeded is the output
written.

* `parseInput` makes the description of a mock.
* `renderMock` makes the generated bytes of it.
* `generate` does both.
* `generateFile` also writes the result.
-/

set_option autoImplicit false

namespace Understudy

open Files

/-! ## Reading -/

/-- The syntax tree of a source file. -/
def parseFile (d : Disk) (path : OsText) : Except Failure Go.Node :=
  match d.readText path with
  | .error e => .error (.unreadable path e)
  | .ok source => parseSource (some path) source

/-- The description of the mock that the options ask for. -/
def parseInput (d : Disk) (o : Options) : Attempt Mock := do
  Attempt.report [.parsing o.input]
  let tree ← Attempt.ofExcept (parseFile d o.input)
  let mock ← extract tree
  let genPackage ← Attempt.ofExcept (o.genPackage (Path.ofNames d.cwd))
  let modelPath ← modelPath d o.input
  Attempt.report
    [.extracted mock.methods.length mock.imports.length mock.package modelPath]
  return { mock with genPackage, modelPath }

/-! ## Rendering -/

/-- The template at a path, or the built-in one. -/
def loadTemplate (d : Disk) : Option OsText → Attempt String
  | none => Attempt.ok Template.builtin
  | some path => do
    Attempt.report [.loadingTemplate path]
    match d.readText path with
    | .error e => Attempt.fail (.unreadableTemplate path e)
    | .ok text => return text

/-- The generated bytes for a mock. -/
def renderMock (d : Disk) (formatter : Formatter) (m : Mock) (o : Options) : Attempt ByteArray := do
  let template ← loadTemplate d o.template
  let text ← Attempt.ofExcept (m.renderWith template)
  if o.format then formatter text.toUTF8 else return text.toUTF8

/-- The generated bytes for the options. -/
def generate (d : Disk) (formatter : Formatter) (o : Options) : Attempt ByteArray := do
  let m ← parseInput d o
  renderMock d formatter m o

/-! ## Writing -/

/-- Why a file is not generated. -/
inductive FileFailure where
  | failed (cause : Failure)
  | noDirectory (dir : OsText) (cause : OsError)
  | notWritten (path : OsText) (cause : OsError)
deriving DecidableEq

namespace FileFailure

/-- The wording of each cause. -/
def message : FileFailure → String
  | failed e => e.message
  | noDirectory dir _ => "Failed to create directory " ++ dir.lossy
  | notWritten path _ => "Failed to write " ++ path.lossy

/-- The wording of the cause behind a failure, where it has one. -/
def cause? : FileFailure → Option String
  | failed e => e.cause?
  | noDirectory _ e => some e.message
  | notWritten _ e => some e.message

end FileFailure

/-- What generating a file comes to: the disk afterwards, the notices and the outcome. -/
structure FileRun where
  disk : Disk
  notices : List Notice
  outcome : Except FileFailure Unit

/-- The directory to be made for an output file, if its path names one. -/
def outputDirectory? (output : OsText) : Option OsText := (Path.parent? output).filter (· != [])

/-- Makes the directory of the output file. -/
def prepareDirectory (d : Disk) (output : OsText) : Disk × Except FileFailure Unit :=
  match outputDirectory? output with
  | none => (d, .ok ())
  | some dir =>
    match d.makeDirectories dir with
    | (d', .ok ()) => (d', .ok ())
    | (d', .error e) => (d', .error (.noDirectory dir e))

/-- Writes the generated bytes to the output file. -/
def writeOutput (d : Disk) (output : OsText) (bytes : ByteArray) : Disk × Except FileFailure Unit :=
  match prepareDirectory d output with
  | (d', .error e) => (d', .error e)
  | (d', .ok ()) =>
    match d'.writeFile output bytes with
    | .error e => (d', .error (.notWritten output e))
    | .ok d'' => (d'', .ok ())

/-- Generates a mock and writes it to the output file. -/
def generateFile (d : Disk) (formatter : Formatter) (o : Options) : FileRun :=
  let made := generate d formatter o
  let notices := .generating o :: made.notices
  match made.outcome with
  | .error e => ⟨d, notices, .error (.failed e)⟩
  | .ok bytes =>
    match writeOutput d o.output bytes with
    | (d', .error e) => ⟨d', notices, .error e⟩
    | (d', .ok ()) => ⟨d', notices ++ [.wrote bytes.size o.output], .ok ()⟩

end Understudy
