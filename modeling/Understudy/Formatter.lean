import Understudy.Attempt
import Understudy.Program.Start

/-!
# Formatting generated source

A formatter takes the generated bytes and gives formatted ones, or rejects them. The usual one is a
program that reads the source and writes it formatted.
-/

set_option autoImplicit false

namespace Understudy

open Files Shell Text

/-- A formatter of generated source. -/
abbrev Formatter := ByteArray → Attempt ByteArray

namespace Formatter

/-- The program that formats source unless another one is chosen. -/
def defaultProgram : String := "gofmt"

/-- How much input a program may leave unread before writing it fails. -/
def pipeSize : Nat := 65536

/-- What a program that ended without success is reported as. -/
def rejection (program : String) (outcome : Outcome) : FormatFailure :=
  match trim (lossy outcome.errors.toList) with
  | [] => .ended program (Program.shownEnding outcome.ending)
  | message => .rejected (String.ofList message)

/-- The formatted source, after a program has run. -/
def result (program : String) : Except OsError Outcome → Except Failure ByteArray
  | .error e => .error (.format (.notStarted program e))
  | .ok outcome =>
    if outcome.ending ≠ .status 0 then .error (.format (rejection program outcome))
    else if pipeSize < outcome.unread.size then .error (.io .brokenPipe)
    else .ok outcome.output

/-- Formats source by a program, looked for in the given directories of a disk. -/
def program (d : Disk) (dirs : List OsText) (name : String) : Formatter := fun source => do
  Attempt.report [.formatting source.size name]
  Attempt.ofExcept (result name (Program.run d dirs name source))

/-- Leaves the source as it is. -/
def identity : Formatter := Attempt.ok

/-- Writes the letters of ASCII in upper case. -/
def upperCase : Formatter := fun source =>
  Attempt.ok (source.toList.map (fun b => if 97 ≤ b ∧ b ≤ 122 then b - 32 else b)).toByteArray

/-- Rejects every source. -/
def reject : Formatter := fun source =>
  Attempt.fail (.format (.rejected ("rejected " ++ toString source.size ++ " bytes")))

end Formatter

end Understudy
