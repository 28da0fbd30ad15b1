import Understudy.Options

/-!
# The command line

The input file is the only argument without a name. Options have a short and a long spelling, and
their value is attached to them or is the next argument. Two dashes end the options. An option or
the input may be given once. The template and the package may also come from the environment.

Arguments are taken one after the other. What has been read of an argument is checked when the next
one begins, so the first fault in order is the one that is reported.

* `parseArguments` reads a command line.
-/

set_option autoImplicit false

namespace Understudy.CommandLine

open Files

/-- Why a command line is not carried out: a fault in it, or a question about the program. -/
inductive Usage where
  | missingRequiredArgument
  | invalidValue
  | unknownArgument
  | argumentConflict
  | tooManyValues
  | displayHelp
  | displayVersion
deriving DecidableEq, Repr

/-- The status with which the program ends. -/
def Usage.exitCode : Usage → Nat
  | .displayHelp | .displayVersion => 0
  | _ => 2

/-- The values that a command line can give. -/
inductive Slot where
  | input
  | output
  | template
  | package
  | format
deriving DecidableEq, Repr

/-- What an option stands for. -/
inductive Flag where
  | value (slot : Slot)
  | question (usage : Usage)
deriving DecidableEq, Repr

/-- The option with the given short spelling. -/
def short? : Char → Option Flag
  | 't' => some (.value .template)
  | 'o' => some (.value .output)
  | 'p' => some (.value .package)
  | 'h' => some (.question .displayHelp)
  | 'V' => some (.question .displayVersion)
  | _ => none

/-- The option with the given long spelling. -/
def long? : String → Option Flag
  | "template" => some (.value .template)
  | "output" => some (.value .output)
  | "package" => some (.value .package)
  | "format" => some (.value .format)
  | "help" => some (.question .displayHelp)
  | "version" => some (.question .displayVersion)
  | _ => none

/-- Whether a value can be given to a slot. -/
def Slot.accepts : Slot → String → Bool
  | .input, v | .output, v | .template, v => v != ""
  | .package, _ => true
  | .format, v => v == "true" || v == "false"

/-! ## Reading arguments -/

/-- What has been read so far. -/
structure Reading where
  /-- The values that are checked. -/
  given : List (Slot × String)
  /-- The slot that was named last, and its value if it has been read. -/
  pending : Option (Slot × Option String)
  /-- Whether the next argument is the input. -/
  wantsInput : Bool
deriving DecidableEq

namespace Reading

/-- Checks a value and keeps it. -/
def keep (r : Reading) (slot : Slot) (value : String) : Except Usage Reading :=
  if (r.given.lookup slot).isSome then .error .argumentConflict
  else if slot.accepts value then .ok { r with given := r.given ++ [(slot, value)] }
  else .error .invalidValue

/-- Checks what is pending. -/
def settle (r : Reading) : Except Usage Reading :=
  match r.pending with
  | none => .ok r
  | some (_, none) => .error .invalidValue
  | some (slot, some value) => { r with pending := none }.keep slot value

/-- Names a slot, whose value comes with the next argument. -/
def await (r : Reading) (slot : Slot) : Except Usage Reading := do
  let r ← r.settle
  return { r with pending := some (slot, none) }

/-- Names a slot with its value. -/
def attach (r : Reading) (slot : Slot) (value : String) : Except Usage Reading := do
  let r ← r.settle
  r.keep slot value

/-- Takes an argument that is no option. -/
def plain (r : Reading) (arg : String) : Except Usage Reading :=
  if r.wantsInput then do
    let r ← r.settle
    return { r with pending := some (.input, some arg), wantsInput := false }
  else .error .unknownArgument

/-- Takes an option with its attached value, if it has one. -/
def flag (r : Reading) (f : Flag) (attached : Option String) : Except Usage Reading :=
  match f, attached with
  | .value slot, some value => r.attach slot value
  | .value slot, none => r.await slot
  | .question _, some _ => .error .tooManyValues
  | .question usage, none => do
    let _ ← r.settle
    .error usage

/-- Splits a long option at its equals sign. -/
def splitEquals : List Char → List Char × Option (List Char)
  | [] => ([], none)
  | c :: cs =>
    if c = '=' then ([], some cs)
    else
      let (name, value) := splitEquals cs
      (c :: name, value)

/-- Takes a long option, written after its dashes. -/
def long (r : Reading) (cs : List Char) : Except Usage Reading :=
  let (name, value) := splitEquals cs
  match long? (String.ofList name) with
  | none => .error .unknownArgument
  | some f => r.flag f (value.map String.ofList)

/-- The value attached to a short option: what follows it, an equals sign aside. -/
def attachedValue : List Char → Option String
  | [] => none
  | '=' :: cs => some (String.ofList cs)
  | cs => some (String.ofList cs)

/-- Takes a short option, written after its dash. -/
def short (r : Reading) : List Char → Except Usage Reading
  | [] => .ok r
  | c :: cs =>
    match short? c with
    | none => .error .unknownArgument
    | some (.value slot) => r.flag (.value slot) (attachedValue cs)
    | some (.question usage) => r.flag (.question usage) none

/-- Takes an argument before the options end, two dashes alone aside. -/
def argument (r : Reading) (arg : String) : Except Usage Reading :=
  match arg.toList with
  | '-' :: '-' :: cs => r.long cs
  | '-' :: c :: cs => r.short (c :: cs)
  | _ =>
    match r.pending with
    | some (slot, none) => .ok { r with pending := some (slot, some arg) }
    | _ => r.plain arg

/-- Takes the arguments after the end of the options. -/
def plainAll : List String → Reading → Except Usage Reading
  | [], r => .ok r
  | arg :: args, r => do
    let r ← r.plain arg
    plainAll args r

/-- Takes all arguments. -/
def arguments : List String → Reading → Except Usage Reading
  | [], r => .ok r
  | arg :: args, r =>
    if arg = "--" then plainAll args r
    else do
      let r ← r.argument arg
      arguments args r

/-- Takes a value from the environment, unless the slot has one. -/
def environment (r : Reading) (slot : Slot) (value : Option String) : Except Usage Reading :=
  match r.given.lookup slot, value with
  | none, some v => r.keep slot v
  | _, _ => .ok r

end Reading

/-! ## Options -/

/-- The variables of the environment that are read. -/
structure Environment where
  template : Option String := none
  package : Option String := none

/-- The options that the values make. -/
def optionsOf (given : List (Slot × String)) : Except Usage Options :=
  match given.lookup .input, given.lookup .output with
  | some input, some output =>
    .ok (Options.make input output ((given.lookup Slot.template).map OsText.ofString)
      (given.lookup .package) (given.lookup .format != some "false"))
  | _, _ => .error .missingRequiredArgument

/-- The options that a command line gives. -/
def parseArguments (args : List String) (env : Environment) : Except Usage Options := do
  let r ← Reading.arguments args ⟨[], none, true⟩
  let r ← r.settle
  let r ← r.environment .template env.template
  let r ← r.environment .package env.package
  optionsOf r.given

end Understudy.CommandLine
