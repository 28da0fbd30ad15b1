import Understudy.Naming
import Understudy.Template.Operator
import Understudy.Text.Lowercase

/-!
# Filters, tests and functions of a template

A filter turns a value into another one, and a test says whether something holds of a value. Both
take arguments. Text is asked of any value, and what it prints is then taken.

An undefined value is accepted only where a default is given for it, and by the tests whether a
value is defined.

* `Filter.run`, `Test.run` and `countUp` are the filters, the tests and the function.
-/

set_option autoImplicit false

namespace Understudy.Template

open Text

/-- An argument: a value, or all the named arguments together. -/
inductive Arg where
  | value (v : Value)
  | keywords (named : List (String × Value))

/-! ## Asking for arguments -/

/-- The text of an argument that has to be there. -/
def textArg : Option Arg → Except Fault String
  | none => .error .missingArgument
  | some (.keywords _) => .error .invalidOperation
  | some (.value v) => if v.isUndefined then .error .undefined else .ok v.printed

/-- The value of an argument, where an undefined one or none at all counts as not given. -/
def optionalArg : Option Arg → Except Fault (Option Value)
  | none => .ok none
  | some (.keywords _) => .error .invalidOperation
  | some (.value .null) => .ok none
  | some (.value v) => .ok (if v.isUndefined then none else some v)

/-- The text of an argument that may be missing. -/
def optionalText (arg : Option Arg) : Except Fault (Option String) := do
  let v ← optionalArg arg
  return v.map Value.printed

/-- Refuses arguments after the first `n`. -/
def atMost (n : Nat) (args : List Arg) : Except Fault Unit :=
  if args.length ≤ n then .ok () else .error .tooManyArguments

/-! ## Filters on text -/

/-- A filter on text without arguments. -/
def textFilter (f : String → String) (v : Value) (args : List Arg) : Except Fault Value := do
  let s ← textArg (some (.value v))
  atMost 0 args
  return .text (f s)

/-- A filter on text with one text as argument. -/
def textFilter1 (f : String → String → String) (v : Value) (args : List Arg) :
    Except Fault Value := do
  let s ← textArg (some (.value v))
  let a ← textArg args[0]?
  atMost 1 args
  return .text (f a s)

/-- The text without the characters that satisfy `p` at its ends. -/
def trimmed (p : Char → Bool) (s : String) : String :=
  String.ofList (((s.toList.dropWhile p).reverse.dropWhile p).reverse)

/-- Cuts white space, or the given characters, off the ends. -/
def trimFilter (v : Value) (args : List Arg) : Except Fault Value := do
  let s ← textArg (some (.value v))
  let chars ← optionalText args[0]?
  atMost 1 args
  match chars with
  | some cs => return .text (trimmed cs.toList.contains s)
  | none => return .text (trimmed isWhiteSpace s)

/-- The characters with `part`, which is not empty, replaced wherever it stands. `skip` counts the
characters of a part that has been replaced. -/
def replacedFrom (part new : List Char) : (skip : Nat) → List Char → List Char
  | _, [] => []
  | skip + 1, _ :: cs => replacedFrom part new skip cs
  | 0, c :: cs =>
    if part.isPrefixOf (c :: cs) then new ++ replacedFrom part new (part.length - 1) cs
    else c :: replacedFrom part new 0 cs

/-- The characters with `part` replaced. An empty part stands around every character. -/
def replaced (part new cs : List Char) : List Char :=
  if part.isEmpty then new ++ cs.flatMap (fun c => c :: new) else replacedFrom part new 0 cs

/-- Replaces a part of a text. -/
def replaceFilter (v : Value) (args : List Arg) : Except Fault Value := do
  let s ← textArg (some (.value v))
  let part ← textArg args[0]?
  let new ← textArg args[1]?
  atMost 2 args
  return .text (String.ofList (replaced part.toList new.toList s.toList))

/-! ## Filters on lists -/

/-- A filter without arguments on a value that is defined. -/
def valueFilter (f : Value → Except Fault Value) (v : Value) (args : List Arg) :
    Except Fault Value := do
  if v.isUndefined then .error .undefined
  else
    atMost 0 args
    f v

/-- The number of characters, items or fields. -/
def length : Value → Except Fault Value
  | .text s => .ok (.int s.toList.length)
  | .list items => .ok (.int items.length)
  | .record fields => .ok (.int fields.length)
  | _ => .error .invalidOperation

/-- The value, or an undefined one. -/
def orUndefined (v : Option Value) : Value := v.getD .undefined

/-- The first character, item or name. -/
def first : Value → Except Fault Value
  | .text s => .ok (orUndefined (s.toList.head?.map Value.ofChar))
  | .list items => .ok (orUndefined items.head?)
  | .record fields => .ok (orUndefined (fields.head?.map (fun f => .text f.1)))
  | _ => .error .invalidOperation

/-- The last character or item. -/
def last : Value → Except Fault Value
  | .text s => .ok (orUndefined (s.toList.getLast?.map Value.ofChar))
  | .list items => .ok (orUndefined items.getLast?)
  | _ => .error .invalidOperation

/-- The characters, items or names in the other direction. -/
def reversed : Value → Except Fault Value
  | .null => .ok .null
  | .text s => .ok (.text (String.ofList s.toList.reverse))
  | .list items => .ok (.list items.reverse)
  | .record fields => .ok (.list (fields.reverse.map (fun f => .text f.1)))
  | _ => .error .invalidOperation

/-- The character with a letter of ASCII in lower case. -/
def lowerAscii (c : Char) : Char := c.toLower

/-- Whether a value comes no later than another one when sorted. Texts are compared without regard
to the case of ASCII letters. -/
def sortsBefore (v w : Value) : Bool :=
  match v, w with
  | .text s, .text t =>
    (compare (String.ofList (s.toList.map lowerAscii))
      (String.ofList (t.toList.map lowerAscii))).isLE
  | _, _ => (v.order w).isLE

/-- The items in ascending order; equal ones keep their order. -/
def sorted (v : Value) : Except Fault Value := do
  let items ← v.items
  return .list (items.mergeSort sortsBefore)

/-- The texts with another one between them. -/
def joined (separator : String) : List String → String
  | [] => ""
  | [s] => s
  | s :: rest => s ++ separator ++ joined separator rest

/-- Joins the printed items. -/
def joinFilter (v : Value) (args : List Arg) : Except Fault Value := do
  if v.isUndefined then .error .undefined
  else
    let separator ← optionalText args[0]?
    atMost 1 args
    let items ← v.items
    return .text (joined (separator.getD "") (items.map Value.printed))

/-- A truth value that may be missing. -/
def optionalBool (arg : Option Arg) : Except Fault Bool := do
  match ← optionalArg arg with
  | none => return false
  | some (.bool b) => return b
  | some _ => .error .invalidOperation

/-- The value, or the argument if the value is undefined. A second argument of true asks for the
default also where the value does not count as true. -/
def defaultFilter (v : Value) (args : List Arg) : Except Fault Value := do
  let other ← optionalArg args[0]?
  let lax ← optionalBool args[1]?
  atMost 2 args
  if v.isUndefined || (lax && !v.isTrue) then return other.getD (.text "") else return v

/-! ## Mapping -/

/-- The part of a value at a path of names and places with dots between them. -/
def atPath (v : Value) : List (List Char) → Except Fault Value
  | [] => .ok v
  | part :: path =>
    let name := String.ofList part
    let step : Except Fault Value :=
      if !part.isEmpty && part.all Char.isDigit then v.item (.int (decimal part)) else v.attr name
    match step with
    | .error e => .error e
    | .ok w => atPath w path
where
  /-- The number that decimal digits make. -/
  decimal (cs : List Char) : Nat := cs.foldl (fun n c => n * 10 + (c.toNat - 48)) 0

/-- The part of an item that an attribute names. -/
def attributeOf (wanted item : Value) : Except Fault Value :=
  match wanted with
  | .text path => atPath item (splitBy (· == '.') path.toList)
  | index => item.item index

/-- A filter. -/
abbrev Filter := Value → List Arg → Except Fault Value

/-- Splits off the named arguments, which stand last. -/
def splitKeywords : List Arg → List Value × List (String × Value)
  | [] => ([], [])
  | .value v :: args =>
    let (vs, named) := splitKeywords args
    (v :: vs, named)
  | .keywords named :: _ => ([], named)

/-- The attributes or the filtered values of the items. `find` looks filters up by name. -/
def mapFilter (find : String → Option Filter) (v : Value) (args : List Arg) :
    Except Fault Value := do
  if v.isUndefined then .error .undefined
  else
    let (vs, named) := splitKeywords args
    match Value.field? "attribute" named with
    | some wanted =>
      if !vs.isEmpty || named.any (fun k => k.1 != "attribute") then .error .tooManyArguments
      else
        let items ← v.items
        let parts ← items.mapM (attributeOf wanted)
        return .list parts
    | none =>
      match vs with
      | .text name :: rest =>
        match find name with
        | none => .error .unknownFilter
        | some f =>
          let more : List Arg := rest.map .value ++ (if named.isEmpty then [] else [.keywords named])
          let items ← v.items
          let results ← items.mapM (fun item => f item more)
          return .list results
      | _ => .error .invalidOperation

/-! ## All filters -/

/-- The filters that do not take filters. -/
def plainFilter? : String → Option Filter
  | "lcfirst" => some (textFilter Naming.lowerFirst)
  | "ucfirst" => some (textFilter Naming.upperFirst)
  | "snakecase" => some (textFilter Naming.snakeCase)
  | "camelcase" => some (textFilter Naming.camelCase)
  | "trimprefix" => some (textFilter1 Naming.removeStart)
  | "trimsuffix" => some (textFilter1 Naming.removeEnd)
  | "upper" => some (textFilter uppercase)
  | "lower" => some (textFilter lowercase)
  | "trim" => some trimFilter
  | "replace" => some replaceFilter
  | "length" => some (valueFilter length)
  | "first" => some (valueFilter first)
  | "last" => some (valueFilter last)
  | "join" => some joinFilter
  | "sort" => some (valueFilter sorted)
  | "reverse" => some (valueFilter reversed)
  | "default" => some defaultFilter
  | _ => none

/-- The filter of the given name. -/
def filter? (name : String) : Option Filter :=
  if name = "map" then some (mapFilter plainFilter?) else plainFilter? name

/-- Applies a filter by name. -/
def runFilter (name : String) (v : Value) (args : List Arg) : Except Fault Value :=
  match filter? name with
  | some f => f v args
  | none => .error .unknownFilter

/-! ## Tests -/

/-- A test. -/
abbrev Test := Value → List Arg → Except Fault Bool

/-- A test without arguments that also takes undefined values. -/
def anyTest (p : Value → Bool) : Test := fun v args => do
  atMost 0 args
  return p v

/-- A test without arguments. -/
def valueTest (p : Value → Bool) : Test := fun v args => do
  if v.isUndefined then .error .undefined
  else
    atMost 0 args
    return p v

/-- A test on text with one text as argument. -/
def textTest (p : String → String → Bool) : Test := fun v args => do
  let s ← textArg (some (.value v))
  let a ← textArg args[0]?
  atMost 1 args
  return p a s

/-- Whether a text begins with another one. -/
def startsWith (start s : String) : Bool := start.toList.isPrefixOf s.toList

/-- Whether a text ends with another one. -/
def endsWith (stop s : String) : Bool := stop.toList.isSuffixOf s.toList

/-- The test of the given name. -/
def test? : String → Option Test
  | "defined" => some (anyTest (fun v => !v.isUndefined))
  | "undefined" => some (anyTest Value.isUndefined)
  | "string" => some (valueTest (fun v => v matches .text _))
  | "number" => some (valueTest (fun v => v matches .int _))
  | "sequence" => some (valueTest (fun v => v matches .list _))
  | "mapping" => some (valueTest (fun v => v matches .record _))
  | "none" => some (valueTest (fun v => v matches .null))
  | "odd" => some (valueTest (fun v => v.number?.any (fun n => n % 2 != 0)))
  | "even" => some (valueTest (fun v => v.number?.any (fun n => n % 2 == 0)))
  | "startingwith" => some (textTest startsWith)
  | "endingwith" => some (textTest endsWith)
  | _ => none

/-- Performs a test by name. -/
def runTest (name : String) (v : Value) (args : List Arg) : Except Fault Bool :=
  match test? name with
  | some p => p v args
  | none => .error .unknownTest

/-! ## Counting -/

/-- A number from zero up to below 2³². -/
def countArg (v : Value) : Except Fault Nat :=
  if v.isUndefined then .error .undefined
  else
    match v.number? with
    | some n => if 0 ≤ n ∧ n < Int.pow 2 32 then .ok n.toNat else .error .invalidOperation
    | none => .error .invalidOperation

/-- A number that has to be given. -/
def requiredCount : Option Arg → Except Fault Nat
  | none => .error .missingArgument
  | some (.keywords _) => .error .invalidOperation
  | some (.value v) => countArg v

/-- A number that may be missing. -/
def optionalCount (arg : Option Arg) : Except Fault (Option Nat) := do
  match ← optionalArg arg with
  | none => return none
  | some v =>
    let n ← countArg v
    return some n

/-- How many numbers can be counted at once. -/
def countLimit : Nat := 100000

/-- The numbers from zero, or from the first argument, to below the last bound, in steps. -/
def countUp (args : List Arg) : Except Fault Value := do
  let lower ← requiredCount args[0]?
  let upper ← optionalCount args[1]?
  let step ← optionalCount args[2]?
  atMost 3 args
  let (start, stop) : Nat × Nat :=
    match upper with
    | some u => (lower, u)
    | none => (0, lower)
  let step := step.getD 1
  if step = 0 then .error .invalidOperation
  else
    let count := (stop - start + step - 1) / step
    if countLimit < count then .error .invalidOperation
    else return .list ((List.range count).map (fun i => .int (Int.ofNat (start + i * step))))

end Understudy.Template
