import Understudy.Go.Node
import Understudy.Mock
import Understudy.Options
import Understudy.Text.Brace
import Understudy.Text.Quoted

/-!
# Notices of a run

What a run reports on its way: its steps, and warnings about what it leaves out. A notice has a
level, a source and a text.
-/

set_option autoImplicit false

namespace Understudy

open Files Go Text

/-- How much a notice matters, the most important first. -/
inductive Level where
  | error
  | warn
  | info
  | debug
  | trace
deriving DecidableEq, Repr

namespace Level

/-- The name of the level in a log. -/
def name : Level → String
  | error => "ERROR"
  | warn => "WARN"
  | info => "INFO"
  | debug => "DEBUG"
  | trace => "TRACE"

/-- The place of the level, from the most important. -/
def rank : Level → Nat
  | error => 1
  | warn => 2
  | info => 3
  | debug => 4
  | trace => 5

end Level

/-- What a run reports. -/
inductive Notice where
  | unhandledType (kind : Kind)
  | ignoredTypeParameters (text : String)
  | notInterface (kind : Kind)
  | foundMethod (name : String) (inputs outputs : Nat)
  | skippedElement (kind : Kind) (text : String)
  | parsing (path : OsText)
  | moduleRoot (path : OsText)
  | extracted (methods imports : Nat) (package modelPath : String)
  | loadingTemplate (path : OsText)
  | formatting (bytes : Nat) (program : String)
  | generating (options : Options)
  | wrote (bytes : Nat) (path : OsText)
deriving DecidableEq

/-- How a value that may be missing is shown. -/
def shownOption {α : Type} (shownValue : α → String) : Option α → String
  | none => "None"
  | some a => "Some(" ++ shownValue a ++ ")"

/-- How options are shown. -/
def Options.shown (o : Options) : String :=
  "Opts " ++ braced (" input_file: " ++ o.input.shown ++
    ", template_file: " ++ shownOption OsText.shown o.template ++
    ", output_file: " ++ o.output.shown ++
    ", output_package: " ++ shownOption (Text.shown false) o.package ++
    ", format: " ++ toString o.format ++ " ")

namespace Notice

def level : Notice → Level
  | unhandledType _ | ignoredTypeParameters _ | notInterface _ => .warn
  | wrote _ _ => .info
  | _ => .debug

/-- The wording of a notice. -/
def message : Notice → String
  | unhandledType kind => "unhandled type " ++ kind.name
  | ignoredTypeParameters text =>
    "type parameters " ++ text ++ " on " ++ targetName ++ " are ignored"
  | notInterface kind =>
    targetName ++ " is a " ++ kind.name ++ " rather than an interface; no methods extracted"
  | foundMethod name inputs outputs =>
    "Found method " ++ name ++ " (" ++ toString inputs ++ " inputs, " ++ toString outputs ++
      " outputs)"
  | skippedElement kind text => "Skipping " ++ kind.name ++ " in " ++ targetName ++ ": " ++ text
  | parsing path => "Parsing " ++ path.lossy
  | moduleRoot path => "Module root: " ++ path.lossy
  | extracted methods imports package modelPath =>
    "Extracted " ++ toString methods ++ " methods and " ++ toString imports ++
      " imports from package " ++ package ++ " (" ++ modelPath ++ ")"
  | loadingTemplate path => "Loading template " ++ path.lossy
  | formatting bytes program => "Formatting " ++ toString bytes ++ " bytes with " ++ program
  | generating options => "Generating mock with " ++ options.shown
  | wrote bytes path => "Wrote " ++ toString bytes ++ " bytes to " ++ path.lossy

/-- The part of the program that a notice names as its source. -/
def target : Notice → String
  | unhandledType _ => "shmock_core::parser::type_renderer"
  | ignoredTypeParameters _ | notInterface _ | foundMethod _ _ _ | skippedElement _ _ =>
    "shmock_core::parser::interface"
  | parsing _ | extracted _ _ _ _ => "shmock_core::generator"
  | moduleRoot _ => "shmock_core::module"
  | loadingTemplate _ => "shmock_core::render"
  | formatting _ _ => "shmock_core::render::formatter"
  | generating _ | wrote _ _ => "shmock::commands::generate"

/-- The line that a log holds for a notice. -/
def line (n : Notice) : String := n.level.name ++ " " ++ n.target ++ ": " ++ n.message

end Notice

end Understudy
