import Understudy.CommandLine.LogFilter
import Understudy.CommandLine.Usage
import Understudy.Generate

/-!
# Running the program

From the arguments and the environment to the exit status, the texts that are written, and the disk
afterwards.
-/

set_option autoImplicit false

namespace Understudy.CommandLine

open Files

/-- What a run of the program leaves behind. -/
structure Report where
  exitCode : Nat
  /-- What is written to the output. -/
  output : String
  /-- The lines of the log. -/
  log : List String
  /-- What is written about a failure. -/
  failure : Option String
  disk : Disk

/-- The name and version of the program. -/
def versionText : String := "shmock 0.1.0\n"

/-- The help on the command line. -/
def helpText : String := String.join [
  "Generate Go test doubles for a Querier interface from a template\n\n",
  "Usage: shmock [OPTIONS] --output <OUTPUT> <INPUT>\n\n",
  "Arguments:\n",
  "  <INPUT>  Go source file declaring `type Querier interface`\n\n",
  "Options:\n",
  "  -t, --template <TEMPLATE>  Template to render instead of the built-in one ",
  "[env: SHMOCK_TEMPLATE=]\n",
  "  -o, --output <OUTPUT>      File to write the generated mock to\n",
  "  -p, --package <PACKAGE>    Package name for the generated file ",
  "(defaults to the output directory name) [env: SHMOCK_PACKAGE=]\n",
  "      --format <FORMAT>      Run the result through gofmt [default: true] ",
  "[possible values: true, false]\n",
  "  -h, --help                 Print help\n",
  "  -V, --version              Print version\n\n",
  "ENVIRONMENT:\n",
  "    RUST_LOG=debug    Enable debug logging\n"]

/-- What is written to the output for a question about the program. -/
def Usage.output : Usage → String
  | .displayHelp => helpText
  | .displayVersion => versionText
  | _ => ""

/-- The text with every line moved in by four blanks. -/
def indented (text : String) : String :=
  String.intercalate "\n"
    ((Text.splitBy (· == '\n') text.toList).map (fun line => "    " ++ String.ofList line))

/-- What is written about a failure: its wording, and that of its cause. -/
def failureText (e : FileFailure) : String :=
  match e.cause? with
  | none => "Error: " ++ e.message
  | some cause => "Error: " ++ e.message ++ "\n\nCaused by:\n" ++ indented cause

/-- The surroundings of a run. -/
structure Surroundings where
  environment : Environment
  /-- The filter of the log that is asked for. -/
  logFilter : Option String := none
  /-- The directories in which programs are looked for. -/
  searchPath : List OsText

/-- Runs the program. -/
def run (d : Disk) (around : Surroundings) (args : List String) : Report :=
  match parseArguments args around.environment with
  | .error usage => ⟨usage.exitCode, usage.output, [], none, d⟩
  | .ok options =>
    let formatter := Formatter.program d around.searchPath Formatter.defaultProgram
    let made := generateFile d formatter options
    let log := (made.notices.filter (admits (logFilter around.logFilter))).map Notice.line
    match made.outcome with
    | .ok () => ⟨0, "", log, none, made.disk⟩
    | .error e => ⟨1, "", log, some (failureText e), made.disk⟩

end Understudy.CommandLine
