import Understudy.Template.Filter
import Understudy.Template.Parser

/-!
# Evaluating templates

A template is evaluated in a scope, a stack of frames that bind names to values. A loop opens a
frame for all its turns. A macro runs in the frames from the one that binds its name downwards,
under a new frame for its arguments, so that it sees what is set beside it, also later.

* `eval` evaluates an expression.
* `exec` runs a statement; what it prints comes in pieces.
* `render` evaluates a template on the given names.
-/

set_option autoImplicit false

namespace Understudy.Template

/-! ## Scopes -/

/-- Names and their values. -/
abbrev Bindings := List (String × Value)

/-- A level of a scope. -/
structure Frame where
  locals : Bindings
  /-- What `loop` stands for, in the frame of a loop. -/
  loop : Option Value

/-- The frames that can be seen, the innermost first. -/
structure Scope where
  frames : List Frame
  /-- How deep the surroundings already are. -/
  outer : Nat

/-- The value that a frame gives to a name. -/
def Frame.find? (name : String) (f : Frame) : Option Value :=
  match Value.field? name f.locals with
  | some v => some v
  | none => if name = "loop" then f.loop else none

/-- The value of a name, with the frames from the one that binds it downwards. -/
def findIn (name : String) : List Frame → Option (Value × List Frame)
  | [] => none
  | f :: fs =>
    match f.find? name with
    | some v => some (v, f :: fs)
    | none => findIn name fs

/-- The names that are bound everywhere. -/
def globals : Bindings := [("range", .range)]

namespace Scope

/-- The value of a name, with the frames from the one that binds it downwards. -/
def find? (name : String) (s : Scope) : Option (Value × List Frame) :=
  match findIn name s.frames with
  | some found => some found
  | none => (Value.field? name globals).map (fun v => (v, []))

/-- The value of a name. -/
def lookup (name : String) (s : Scope) : Value :=
  match s.find? name with
  | some (v, _) => v
  | none => .undefined

/-- Binds a name in the innermost frame. -/
def bind (name : String) (v : Value) (s : Scope) : Scope :=
  match s.frames with
  | [] => s
  | f :: fs => { s with frames := { f with locals := (name, v) :: f.locals } :: fs }

/-- How deep the scope is. -/
def depth (s : Scope) : Nat := s.outer + s.frames.length

/-- Opens a frame. -/
def push (loop : Option Value) (s : Scope) : Scope := { s with frames := ⟨[], loop⟩ :: s.frames }

/-- Closes the innermost frame. -/
def pop (s : Scope) : Scope := { s with frames := s.frames.tail }

/-- Sets what `loop` stands for in the innermost frame. -/
def setLoop (loop : Value) (s : Scope) : Scope :=
  match s.frames with
  | [] => s
  | f :: fs => { s with frames := { f with loop := some loop } :: fs }

end Scope

/-! ## Macros -/

/-- The fault of a step on the given line. -/
def onLine {α : Type} (line : Nat) : Except Fault α → Except Error α
  | .ok a => .ok a
  | .error fault => .error ⟨fault, line⟩

/-- The arguments of a call: those without names, and those with. -/
structure Args where
  values : List Value
  named : List (String × Value)

/-- The evaluated arguments, of which `keywords` names the last ones. -/
def Args.make (vs : List Value) (keywords : List String) : Args :=
  let count := vs.length - keywords.length
  ⟨vs.take count, keywords.zip (vs.drop count)⟩

/-- The arguments as a filter, a test or a function takes them. -/
def Args.toList (a : Args) : List Arg :=
  a.values.map .value ++ (if a.named.isEmpty then [] else [.keywords a.named])

/-- The values of a macro's parameters, undefined where none is given. -/
def bindParams (a : Args) (params : List String) : Except Fault (List (String × Value)) :=
  if params.length < a.values.length then .error .tooManyArguments
  else if (params.take a.values.length).any (fun p => (Value.field? p a.named).isSome) then
    .error .tooManyArguments
  else if a.named.any (fun k => !params.contains k.1) then .error .tooManyArguments
  else
    let rest := params.drop a.values.length
    .ok (params.zip (a.values ++ rest.map (fun p => (Value.field? p a.named).getD .undefined)))

/-- A macro as it is called: its parameters, defaults and body. -/
structure Macro where
  params : List String
  defaults : List Expr
  body : List Stmt

/-- How macros are run: in the given frames, at the given depth, on the given arguments. Faults of
the call itself lie on the given line. -/
abbrev Invoke := (line depth : Nat) → Macro → List Frame → Args → Except Error String

/-! ## Expressions -/

/-- The value of a constant. -/
def Literal.value : Literal → Value
  | .none => .null
  | .bool b => .bool b
  | .int n => .int n
  | .text s => .text s

/-- Calls a value that is bound in the first of the frames. -/
def callValue (invoke : Invoke) (line depth : Nat) (v : Value) (frames : List Frame) (a : Args) :
    Except Error Value :=
  match v with
  | .macroDef _ params defaults body => do
    let printed ← invoke line depth ⟨params, defaults, body⟩ frames a
    return .text printed
  | .range => onLine line (countUp a.toList)
  | _ => .error ⟨.invalidOperation, line⟩

mutual

/-- The value of an expression. -/
def eval (invoke : Invoke) (s : Scope) : Expr → Except Error Value
  | .literal _ value => .ok value.value
  | .var _ name => .ok (s.lookup name)
  | .list _ items => do
    let vs ← evalAll invoke s items
    return .list vs
  | .attr line base name => do
    let v ← eval invoke s base
    onLine line (v.attr name)
  | .item line base index => do
    let v ← eval invoke s base
    let i ← eval invoke s index
    onLine line (v.item i)
  | .slice line base start stop step => do
    let v ← eval invoke s base
    let a ← eval invoke s start
    let b ← eval invoke s stop
    let c ← eval invoke s step
    onLine line (v.slice a b c)
  | .call line name args keywords => do
    let vs ← evalAll invoke s args
    match s.find? name with
    | none => .error ⟨.unknownFunction, line⟩
    | some (v, frames) =>
      if v.isUndefined then .error ⟨.unknownFunction, line⟩
      else callValue invoke line s.depth v frames (Args.make vs keywords)
  | .method line base name args keywords => do
    let v ← eval invoke s base
    let vs ← evalAll invoke s args
    match v.attr? name with
    | none => .error ⟨.unknownMethod, line⟩
    | some w => callValue invoke line s.depth w s.frames (Args.make vs keywords)
  | .apply line base args keywords => do
    let v ← eval invoke s base
    let vs ← evalAll invoke s args
    callValue invoke line s.depth v s.frames (Args.make vs keywords)
  | .filter line base name args keywords => do
    let v ← eval invoke s base
    let vs ← evalAll invoke s args
    onLine line (runFilter name v (Args.make vs keywords).toList)
  | .test line base name args keywords => do
    let v ← eval invoke s base
    let vs ← evalAll invoke s args
    let holds ← onLine line (runTest name v (Args.make vs keywords).toList)
    return .bool holds
  | .negate line operand => do
    let v ← eval invoke s operand
    onLine line (opposite v)
  | .not line operand => do
    let v ← eval invoke s operand
    let holds ← onLine line (truth v)
    return .bool (!holds)
  | .binary line op left right => do
    let l ← eval invoke s left
    let r ← eval invoke s right
    onLine line (op.run l r)
  | .and _ left right => do
    let l ← eval invoke s left
    let holds ← onLine left.line (truth l)
    if holds then eval invoke s right else return l
  | .or _ left right => do
    let l ← eval invoke s left
    let holds ← onLine left.line (truth l)
    if holds then return l else eval invoke s right
  | .ifElse _ test yes no => do
    let v ← eval invoke s test
    let holds ← onLine test.line (truth v)
    if holds then eval invoke s yes else eval invoke s no
  | .ifOnly _ test yes => do
    let v ← eval invoke s test
    let holds ← onLine test.line (truth v)
    if holds then eval invoke s yes else return .absent

/-- The values of expressions, from the first to the last. -/
def evalAll (invoke : Invoke) (s : Scope) : List Expr → Except Error (List Value)
  | [] => .ok []
  | e :: es => do
    let v ← eval invoke s e
    let vs ← evalAll invoke s es
    return v :: vs

end

/-! ## Statements -/

/-- The pieces of text that are printed, in order. -/
abbrev Pieces := List String

/-- What running statements gives: the scope after them, and what they print. -/
abbrev Run := Except Error (Scope × Pieces)

/-- What `loop` stands for in the turn `i`, counted from zero, of `n`. -/
def loopValue (n i : Nat) : Value :=
  .record [
    ("index", .int (i + 1 : Nat)), ("index0", .int i),
    ("revindex", .int (n - i : Nat)), ("revindex0", .int (n - i - 1 : Nat)),
    ("first", .bool (i == 0)), ("last", .bool (i + 1 == n)), ("length", .int n)]

/-- Runs the turns of a loop from the turn `i` of `n` on. -/
def turns (target : String) (n : Nat) (body : Scope → Run) : (i : Nat) → List Value → Scope → Run
  | _, [], s => .ok (s, [])
  | i, item :: items, s => do
    let (s, printed) ← body ((s.setLoop (loopValue n i)).bind target item)
    let (s, more) ← turns target n body (i + 1) items s
    return (s, printed ++ more)

/-- The items that pass the test of a loop. The test sees the item in a frame of its own. -/
def passing (invoke : Invoke) (target : String) (test : Expr) :
    List Value → Scope → Except Error (List Value)
  | [], _ => .ok []
  | item :: items, s => do
    let s := s.bind target item
    let v ← eval invoke s test
    let holds ← onLine test.line (truth v)
    let rest ← passing invoke target test items s
    return if holds then item :: rest else rest

/-- The items that a loop goes through. -/
def loopItems (invoke : Invoke) (target : String) (items : Expr) (test : Option Expr) (s : Scope) :
    Except Error (List Value) := do
  let v ← eval invoke s items
  let all ← onLine items.line v.items
  match test with
  | none => return all
  | some e => passing invoke target e all (s.push none)

mutual

/-- Runs a statement. -/
def exec (invoke : Invoke) : Stmt → Scope → Run
  | .text content, s => .ok (s, [content])
  | .print value, s => do
    let v ← eval invoke s value
    match v with
    | .undefined => .error ⟨.undefined, value.line⟩
    | v => return (s, [v.printed])
  | .forEach target items test body otherwise, s => do
    let all ← loopItems invoke target items test s
    let (inner, printed) ←
      turns target all.length (execAll invoke body) 0 all (s.push none)
    let s := inner.pop
    if all.isEmpty then
      let (s, more) ← execAll invoke otherwise s
      return (s, printed ++ more)
    else return (s, printed)
  | .branch test yes no, s => do
    let v ← eval invoke s test
    let holds ← onLine test.line (truth v)
    if holds then execAll invoke yes s else execAll invoke no s
  | .set target value, s => do
    let v ← eval invoke s value
    return (s.bind target v, [])
  | .capture target body, s => do
    let (s, printed) ← execAll invoke body s
    return (s.bind target (.text (String.join printed)), [])
  | .define name params defaults body, s =>
    .ok (s.bind name (.macroDef name params defaults body), [])

/-- Runs statements one after the other. -/
def execAll (invoke : Invoke) : List Stmt → Scope → Run
  | [], s => .ok (s, [])
  | st :: sts, s => do
    let (s, printed) ← exec invoke st s
    let (s, more) ← execAll invoke sts s
    return (s, printed ++ more)

end

/-! ## Running macros -/

/-- Pairs parameters with defaults, which belong to the last ones. -/
def withDefaults (params : List (String × Value)) (defaults : List Expr) :
    List ((String × Value) × Option Expr) :=
  params.zip (List.replicate (params.length - defaults.length) none ++ defaults.map some)

/-- Binds parameters from the last to the first. A default is evaluated where the value is
undefined, and sees the parameters after it. -/
def bindAll (invoke : Invoke) : List ((String × Value) × Option Expr) → Scope →
    Except Error Scope
  | [], s => .ok s
  | ((name, v), default) :: rest, s => do
    let s ← bindAll invoke rest s
    match default with
    | some e =>
      if v.isUndefined then
        let w ← eval invoke s e
        return s.bind name w
      else return s.bind name v
    | none => return s.bind name v

/-- How much deeper than its caller a macro runs. -/
def macroDepth : Nat := 4

/-- How deep scopes may be. -/
def scopeLimit : Nat := 500

/-- Runs a macro, with macros in it nesting at most `fuel` deep. -/
def invokeAt : (fuel : Nat) → Invoke
  | 0 => fun line _ _ _ _ => .error ⟨.invalidOperation, line⟩
  | fuel + 1 => fun line depth m frames args => do
    let params ← onLine line (bindParams args m.params)
    let outer := depth + macroDepth
    if scopeLimit < outer + 2 then .error ⟨.invalidOperation, line⟩
    else
      let s : Scope := ⟨⟨[], none⟩ :: frames, outer + 1 - frames.length⟩
      let s ← bindAll (invokeAt fuel) (withDefaults params m.defaults) s
      let (_, printed) ← execAll (invokeAt fuel) m.body s
      return String.join printed

/-- A bound on how deep macros nest, which the depth of scopes makes. -/
def macroLimit : Nat := 100

/-! ## Whole templates -/

/-- What statements print on the given names. -/
def renderStmts (statements : List Stmt) (names : Bindings) : Except Error String := do
  let (_, printed) ← execAll (invokeAt macroLimit) statements ⟨[⟨names, none⟩], 0⟩
  return String.join printed

end Understudy.Template
