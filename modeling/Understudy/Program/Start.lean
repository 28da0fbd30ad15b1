import Understudy.Program.Shell
import Understudy.Text.Lossy

/-!
# Starting programs

A program that is named without a slash is looked for in the directories of a search path. A file
that is executable and begins with the name of an interpreter is a script. Besides there are the
programs that copy their input and that do nothing.

* `Program.run` starts a program on an input.
-/

set_option autoImplicit false

namespace Understudy.Program

open Files Shell Text

/-- The programs that every system has, by path. -/
def system? (path : OsText) (input : ByteArray) : Option Outcome :=
  match path.toStr? with
  | some "/bin/cat" | some "/usr/bin/cat" => some ⟨input, .empty, .empty, .status 0⟩
  | some "/bin/true" | some "/usr/bin/true" => some ⟨.empty, .empty, input, .status 0⟩
  | some "/bin/false" | some "/usr/bin/false" => some ⟨.empty, .empty, input, .status 1⟩
  | _ => none

/-- The interpreters of shell scripts. -/
def shells : List String := ["/bin/sh", "/bin/dash", "/bin/bash", "/usr/bin/sh", "/usr/bin/bash"]

/-- The interpreter that the first line of a script names. -/
def interpreter? (content : List Char) : Option String :=
  match content with
  | '#' :: '!' :: rest =>
    (words (rest.takeWhile (· != '\n'))).head?.map String.ofList
  | _ => none

/-- Runs the file of the given name and content. -/
def runScript (d : Disk) (name : String) (content input : ByteArray) : Except OsError Outcome :=
  let script := lossy content.toList
  match interpreter? script with
  | none => .error .badFormat
  | some interpreter =>
    if shells.contains interpreter then .ok (Shell.run d name script input)
    else
      match interpreter with
      | "/bin/cat" => .ok ⟨content, .empty, input, .status 0⟩
      | _ =>
        match system? interpreter input with
        | some outcome => .ok outcome
        | none => .error .notFound

/-- Starts the program at a path. -/
def runPath (d : Disk) (path : OsText) (input : ByteArray) : Except OsError Outcome :=
  match system? path input with
  | some outcome => .ok outcome
  | none =>
    match Disk.itemAt (d.locate true path) with
    | .error e => .error e
    | .ok (_, .file content true) => runScript d path.lossy content input
    | .ok _ => .error .permissionDenied

/-- Starts the first program of the given name in the directories. `denied` says whether one was
found that may not be started. -/
def search (d : Disk) (program : String) (input : ByteArray) : (denied : Bool) → List OsText →
    Except OsError Outcome
  | denied, [] => .error (if denied then .permissionDenied else .notFound)
  | denied, dir :: dirs =>
    match runPath d (Path.join dir program) input with
    | .ok outcome => .ok outcome
    | .error .permissionDenied => search d program input true dirs
    | .error .badFormat => .error .badFormat
    | .error _ => search d program input denied dirs

/-- Starts a program by name, looking for it in `dirs` if the name has no slash. -/
def run (d : Disk) (dirs : List OsText) (program : String) (input : ByteArray) :
    Except OsError Outcome :=
  if program.toList.contains '\x00' then .error .nulInPath
  else if program.toList.contains '/' then runPath d program input
  else if program = "" then .error .notFound
  else search d program input false dirs

/-- The name of a signal. -/
def signalName : Nat → String
  | 1 => "SIGHUP"
  | 2 => "SIGINT"
  | 3 => "SIGQUIT"
  | 4 => "SIGILL"
  | 5 => "SIGTRAP"
  | 6 => "SIGABRT"
  | 7 => "SIGBUS"
  | 8 => "SIGFPE"
  | 9 => "SIGKILL"
  | 10 => "SIGUSR1"
  | 11 => "SIGSEGV"
  | 12 => "SIGUSR2"
  | 13 => "SIGPIPE"
  | 14 => "SIGALRM"
  | 15 => "SIGTERM"
  | n => "SIG" ++ toString n

/-- How an ending is shown. -/
def shownEnding : Ending → String
  | .status code => "exit status: " ++ toString code
  | .signal n => "signal: " ++ toString n ++ " (" ++ signalName n ++ ")"

end Understudy.Program
