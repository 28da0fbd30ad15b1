import Understudy.CommandLine.Run

/-!
# The program

Copies the files that a run may look at onto a disk in memory, runs, and writes the output file
that the run has made.
-/

set_option autoImplicit false

namespace Understudy.Program

open Files CommandLine

/-- The names of the current directory. -/
def currentNames : IO (List OsText) := do
  let dir ← IO.currentDir
  return Path.names dir.toString

/-- The disk with the directories above a real name. -/
def withParents (d : Disk) (names : List OsText) : Disk :=
  (List.range names.length).foldl (fun d n =>
    if n = 0 then d else d.put (names.take n) .directory) d

/-- The disk with a copy of the file at a path, under its own name and its real name. -/
def withFile (d : Disk) (executable : Bool) (path : OsText) : IO Disk := do
  let some file := path.toStr? | return d
  let .ok whole := Path.absolute (Path.ofNames d.cwd) path | return d
  try
    let content ← IO.FS.readBinFile file
    let real ← IO.FS.realPath file
    let realNames := Path.names real.toString
    let names := Path.names whole
    let d := (withParents d realNames).put realNames (.file content executable)
    if names.contains Path.dotDot || names = realNames then return d
    else return (withParents d names).put names (.link (Path.ofNames realNames))
  catch _ => return d

/-- The disk with copies of the files that a run with the given options may read. -/
def diskFor (o : Options) (searchPath : List OsText) : IO Disk := do
  let cwd ← currentNames
  let start : Disk := withParents ⟨[(cwd, .directory)], cwd⟩ cwd
  let mut d ← withFile start false o.input
  if let some template := o.template then
    d ← withFile d false template
  if let .ok real := d.canonicalize o.input then
    for dir in (Path.ancestors real).tail do
      d ← withFile d false (Path.join dir moduleFile)
  for dir in searchPath do
    d ← withFile d true (Path.join dir Formatter.defaultProgram)
  return d

/-- Writes the output file of a run. -/
def save (d : Disk) (output : OsText) : IO Unit := do
  if let some dir := outputDirectory? output then
    IO.FS.createDirAll dir.lossy
  if let .ok content := d.readBytes output then
    IO.FS.writeBinFile output.lossy content

/-- Runs the program on its arguments. -/
def runMain (args : List String) : IO UInt32 := do
  let environment : Environment :=
    ⟨← IO.getEnv "SHMOCK_TEMPLATE", ← IO.getEnv "SHMOCK_PACKAGE"⟩
  let searchPath := (((← IO.getEnv "PATH").getD "").splitOn ":").map OsText.ofString
  let around : Surroundings := ⟨environment, ← IO.getEnv "RUST_LOG", searchPath⟩
  match parseArguments args environment with
  | .error _ =>
    let report := CommandLine.run ⟨[], []⟩ around args
    IO.print report.output
    return report.exitCode.toUInt32
  | .ok options =>
    let d ← diskFor options searchPath
    let report := CommandLine.run d around args
    for line in report.log do
      IO.eprintln line
    if let some failure := report.failure then
      IO.eprintln failure
    else
      save report.disk options.output
    return report.exitCode.toUInt32

end Understudy.Program

/-- Runs the program. -/
def main (args : List String) : IO UInt32 := Understudy.Program.runMain args
