import Understudy.Template.Expr
import Understudy.Template.Token

/-!
# Reading templates

The statements that the tokens of a template make. Expressions nest by precedence, from the
conditional expression down to operands. Nesting is bounded, and a template that nests deeper is
refused.

* `Template.parse` reads a template.
-/

set_option autoImplicit false

namespace Understudy.Template

/-- What is left to read. -/
structure Stream where
  /-- The line of the last token read. -/
  line : Nat
  rest : List Located

/-- A reader of tokens. -/
abbrev Parser := StateT Stream (Except Error)

namespace Parser

variable {α : Type}

/-- Fails at the last token read. -/
def unexpected : Parser α := fun s => .error ⟨.badSyntax, s.line⟩

/-- The next token, without reading it. -/
def peek : Parser (Option Token) := fun s =>
  match s.rest with
  | [] => .ok (none, s)
  | ⟨line, .bad fault⟩ :: _ => .error ⟨fault, line⟩
  | ⟨_, token⟩ :: _ => .ok (some token, s)

/-- Reads the next token. -/
def next : Parser (Option Token) := fun s =>
  match s.rest with
  | [] => .ok (none, s)
  | ⟨line, .bad fault⟩ :: _ => .error ⟨fault, line⟩
  | ⟨line, token⟩ :: rest => .ok (some token, ⟨line, rest⟩)

/-- The line of the last token read. -/
def here : Parser Nat := fun s => .ok (s.line, s)

/-- The number of tokens that are left. -/
def left : Parser Nat := fun s => .ok (s.rest.length, s)

/-- Reads the given token if it is next. -/
def accept (t : Token) : Parser Bool := do
  if (← peek) = some t then
    let _ ← next
    return true
  else return false

/-- Reads the given token, which has to be next. -/
def expect (t : Token) : Parser Unit := do
  if (← next) = some t then return () else unexpected

/-- Reads a word. -/
def word : Parser String := do
  match ← next with
  | some (.word name) => return name
  | _ => unexpected

/-- The symbol as a token. -/
def sym (s : String) : Token := .symbol s

/-- Reads items with commas between them up to `close`. A comma may follow the last one. -/
def itemsUntil (close : Token) (item : Parser α) : (fuel : Nat) → (first : Bool) → Parser (List α)
  | 0, _ => unexpected
  | fuel + 1, first => do
    if ← accept close then return []
    unless first do
      expect (sym ",")
    if !first && (← accept close) then return []
    let x ← item
    let xs ← itemsUntil close item fuel false
    return x :: xs

/-! ## Operands -/

/-- How nested expressions are read: any expression, or one that is no conditional. -/
structure Nested where
  full : Parser Expr
  plain : Parser Expr

/-- Reads the arguments of a call after its parenthesis. After a named argument all have names. -/
def argumentsFrom (n : Nested) : (fuel : Nat) → (first : Bool) → (names : List String) →
    Parser (List Expr × List String)
  | 0, _, _ => unexpected
  | fuel + 1, first, names => do
    if ← accept (sym ")") then return ([], names)
    unless first do
      expect (sym ",")
    if !first && (← accept (sym ")")) then return ([], names)
    let e ← n.full
    let keyword? : Option String :=
      match e with
      | .var _ name => some name
      | _ => none
    match keyword? with
    | some name =>
      if ← accept (sym "=") then
        let value ← n.plain
        let (es, all) ← argumentsFrom n fuel false (names ++ [name])
        return (value :: es, all)
      else if names.isEmpty then
        let (es, all) ← argumentsFrom n fuel false names
        return (e :: es, all)
      else unexpected
    | none =>
      if names.isEmpty then
        let (es, all) ← argumentsFrom n fuel false names
        return (e :: es, all)
      else unexpected

/-- Reads the arguments of a call, parentheses included. -/
def arguments (n : Nested) : Parser (List Expr × List String) := do
  expect (sym "(")
  argumentsFrom n ((← left) + 1) true []

/-- Reads arguments if a parenthesis is next. -/
def optionalArguments (n : Nested) : Parser (List Expr × List String) := do
  if (← peek) = some (sym "(") then arguments n else return ([], [])

/-- The constant that a word names. -/
def constant? : String → Option Literal
  | "true" | "True" => some (.bool true)
  | "false" | "False" => some (.bool false)
  | "none" | "None" => some .none
  | _ => none

/-- Reads what stands in parentheses: an expression, or a list with commas. -/
def parenthesized (n : Nested) (line : Nat) : Parser Expr := do
  if ← accept (sym ")") then return .list line []
  let e ← n.full
  if (← peek) = some (sym ",") then
    let es ← itemsUntil (sym ")") n.full ((← left) + 1) false
    return .list (lastLine e.line es) (e :: es)
  else
    expect (sym ")")
    return e

/-- Reads a constant, a name, a list or an expression in parentheses. -/
def primary (n : Nested) : Parser Expr := do
  let token ← next
  let line ← here
  match token with
  | some (.word name) =>
    match constant? name with
    | some value => return .literal line value
    | none => return .var line name
  | some (.string value) => return .literal line (.text value)
  | some (.number value) => return .literal line (.int value)
  | some (.symbol "(") => parenthesized n line
  | some (.symbol "[") =>
    let es ← itemsUntil (sym "]") n.full ((← left) + 1) true
    return .list (lastLine line es) es
  | _ => unexpected

/-- Reads an operand with minus signs before it. -/
def signed (n : Nested) : (fuel : Nat) → Parser Expr
  | 0 => unexpected
  | fuel + 1 => do
    if ← accept (sym "-") then
      let line ← here
      return .negate line (← signed n fuel)
    else primary n

/-- Reads a bound of a slice, unless one of the given tokens is next. -/
def bound (n : Nested) (line : Nat) (stops : List Token) : Parser Expr := do
  if ((← peek).any stops.contains) then return .literal line .none else n.full

/-- Reads what stands in brackets after `base`: an index or the bounds of a slice. -/
def subscript (n : Nested) (base : Expr) : Parser Expr := do
  let colon := sym ":"
  let close := sym "]"
  let start ← bound n base.line [colon]
  if ← accept colon then
    let stop ← bound n start.line [close, colon]
    let step ← do
      if ← accept colon then bound n stop.line [close] else pure (.literal stop.line .none)
    expect close
    return .slice step.line base start stop step
  else
    expect close
    return .item start.line base start

/-- A call of `base`: of a name, of a method, or of any value. -/
def callOf (base : Expr) (args : List Expr) (keywords : List String) : Expr :=
  let line := lastLine base.line args
  match base with
  | .var _ name => .call line name args keywords
  | .attr _ object name => .method line object name args keywords
  | _ => .apply line base args keywords

/-- Reads attributes, subscripts and calls after an operand. -/
def suffixes (n : Nested) : (fuel : Nat) → Expr → Parser Expr
  | 0, e => return e
  | fuel + 1, e => do
    match ← peek with
    | some (.symbol ".") =>
      let _ ← next
      let name ← word
      suffixes n fuel (.attr e.line e name)
    | some (.symbol "[") =>
      let _ ← next
      suffixes n fuel (← subscript n e)
    | some (.symbol "(") =>
      let (args, keywords) ← arguments n
      suffixes n fuel (callOf e args keywords)
    | _ => return e

/-- Reads an operand with its signs and suffixes. -/
def operand (n : Nested) : Parser Expr := do
  let e ← signed n ((← left) + 1)
  suffixes n (← left) e

/-- Whether a token begins the argument of a test that is written without parentheses. -/
def beginsArgument : Token → Bool
  | .word name => !(["and", "or", "else", "is"].contains name)
  | .string _ | .number _ => true
  | .symbol s => ["+", "-", "[", "\x7b"].contains s
  | _ => false

/-- Reads the arguments of a test: in parentheses, or one operand. -/
def testArguments (n : Nested) : Parser (List Expr × List String) := do
  match ← peek with
  | some (.symbol "(") => arguments n
  | some token => if beginsArgument token then return ([← operand n], []) else return ([], [])
  | none => return ([], [])

/-- Reads filters and tests after an operand. -/
def filters (n : Nested) : (fuel : Nat) → Expr → Parser Expr
  | 0, e => return e
  | fuel + 1, e => do
    match ← peek with
    | some (.symbol "|") =>
      let _ ← next
      let name ← word
      let (args, keywords) ← optionalArguments n
      filters n fuel (.filter (lastLine e.line args) e name args keywords)
    | some (.word "is") =>
      let _ ← next
      let negated ← accept (.word "not")
      let name ← word
      let (args, keywords) ← testArguments n
      let line := lastLine e.line args
      let tested := Expr.test line e name args keywords
      filters n fuel (if negated then .not line tested else tested)
    | _ => return e

/-- Reads an operand with filters and tests. -/
def filtered (n : Nested) : Parser Expr := do
  let e ← operand n
  filters n (← left) e

/-! ## Operators -/

/-- The operator between two values that a token is. -/
abbrev OpTable := Token → Option (Expr → Expr → Expr)

/-- An operator, reported on the line of its right operand. -/
def binary (op : BinaryOp) (l r : Expr) : Expr := .binary r.line op l r

/-- Reads further operands after `e`, each with an operator of the table before it. -/
def moreOperands (table : OpTable) (operand : Parser Expr) : (fuel : Nat) → Expr → Parser Expr
  | 0, e => return e
  | fuel + 1, e => do
    match (← peek).bind table with
    | some join =>
      let _ ← next
      let r ← operand
      moreOperands table operand fuel (join e r)
    | none => return e

/-- Reads operands with operators of the table between them, grouped from the left. -/
def leftGrouped (table : OpTable) (operand : Parser Expr) : Parser Expr := do
  let e ← operand
  moreOperands table operand (← left) e

def productTable : OpTable
  | .symbol "*" => some (binary .multiply)
  | .symbol "//" => some (binary .divide)
  | .symbol "%" => some (binary .remainder)
  | _ => none

def concatTable : OpTable
  | .symbol "~" => some (binary .concat)
  | _ => none

def sumTable : OpTable
  | .symbol "+" => some (binary .add)
  | .symbol "-" => some (binary .subtract)
  | _ => none

def andTable : OpTable
  | .word "and" => some (fun l r => .and r.line l r)
  | _ => none

def orTable : OpTable
  | .word "or" => some (fun l r => .or r.line l r)
  | _ => none

def comparisonTable : OpTable
  | .symbol "==" => some (binary .equal)
  | .symbol "!=" => some (binary .notEqual)
  | .symbol "<" => some (binary .less)
  | .symbol "<=" => some (binary .lessEqual)
  | .symbol ">" => some (binary .greater)
  | .symbol ">=" => some (binary .greaterEqual)
  | .word "in" => some (binary .member)
  | _ => none

/-- Reads sums: products, joined texts, then sums bind ever more loosely. -/
def arithmetic (n : Nested) : Parser Expr :=
  leftGrouped sumTable (leftGrouped concatTable (leftGrouped productTable (filtered n)))

/-- Reads further comparisons after `e`. -/
def moreComparisons (n : Nested) : (fuel : Nat) → Expr → Parser Expr
  | 0, e => return e
  | fuel + 1, e => do
    match ← peek with
    | some (.word "not") =>
      let _ ← next
      expect (.word "in")
      let r ← arithmetic n
      moreComparisons n fuel (.not r.line (binary .member e r))
    | some token =>
      match comparisonTable token with
      | some join =>
        let _ ← next
        let r ← arithmetic n
        moreComparisons n fuel (join e r)
      | none => return e
    | none => return e

/-- Reads comparisons, grouped from the left. -/
def comparison (n : Nested) : Parser Expr := do
  let e ← arithmetic n
  moreComparisons n (← left) e

/-- Reads negations of a comparison. -/
def negation (n : Nested) : (fuel : Nat) → Parser Expr
  | 0 => unexpected
  | fuel + 1 => do
    if ← accept (.word "not") then
      let e ← negation n fuel
      return .not e.line e
    else comparison n

/-- Reads an expression that is no conditional. -/
def plainExpr (n : Nested) : Parser Expr :=
  leftGrouped orTable (leftGrouped andTable (do negation n ((← left) + 1)))

/-- Reads the conditions after `e`. -/
def conditions (n : Nested) : (fuel : Nat) → Expr → Parser Expr
  | 0, e => return e
  | fuel + 1, e => do
    if ← accept (.word "if") then
      let test ← plainExpr n
      if ← accept (.word "else") then
        let no ← n.full
        conditions n fuel (.ifElse no.line test e no)
      else conditions n fuel (.ifOnly e.line test e)
    else return e

/-- Reads any expression. -/
def fullExpr (n : Nested) : Parser Expr := do
  let e ← plainExpr n
  conditions n (← left) e

/-- How expressions are read that nest at most `depth` deep. -/
def nested : (depth : Nat) → Nested
  | 0 => ⟨unexpected, unexpected⟩
  | depth + 1 => ⟨fullExpr (nested depth), plainExpr (nested depth)⟩

/-! ## Statements -/

/-- The names that cannot be set. -/
def reservedNames : List String :=
  ["true", "True", "false", "False", "none", "None", "loop", "self"]

/-- Reads a name to be set. -/
def target : Parser String := do
  let name ← word
  if reservedNames.contains name then unexpected else return name

/-- Reads the end of a statement's tag. -/
def tagEnd : Parser Unit := expect (.closing .block)

/-- How the statements inside a statement are read, up to one of the given words. -/
abbrev Body := List String → Parser (List Stmt)

/-- Reads the rest of a loop. -/
def forStatement (n : Nested) (body : Body) : Parser Stmt := do
  let name ← target
  expect (.word "in")
  let items ← n.plain
  let test ← do
    if ← accept (.word "if") then
      let e ← n.full
      pure (some e)
    else pure none
  tagEnd
  let statements ← body ["endfor", "else"]
  let otherwise ← do
    if ← accept (.word "else") then
      tagEnd
      body ["endfor"]
    else pure []
  let _ ← next
  return .forEach name items test statements otherwise

/-- Reads the rest of a conditional statement. Every further condition is one inside the other
branch. -/
def ifStatement (n : Nested) (body : Body) : (fuel : Nat) → Parser Stmt
  | 0 => unexpected
  | fuel + 1 => do
    let test ← n.full
    tagEnd
    let yes ← body ["endif", "else", "elif"]
    match ← next with
    | some (.word "else") =>
      tagEnd
      let no ← body ["endif"]
      let _ ← next
      return .branch test yes no
    | some (.word "elif") => return .branch test yes [← ifStatement n body fuel]
    | _ => return .branch test yes []

/-- Reads the rest of an assignment. -/
def setStatement (n : Nested) (body : Body) : Parser Stmt := do
  let name ← target
  if ← accept (.closing .block) then
    let statements ← body ["endset"]
    let _ ← next
    return .capture name statements
  else
    expect (sym "=")
    return .set name (← n.full)

/-- Reads the parameters of a macro after the parenthesis. After a default all have one. -/
def parameters (n : Nested) : (fuel : Nat) → (first hasDefault : Bool) →
    Parser (List String × List Expr)
  | 0, _, _ => unexpected
  | fuel + 1, first, hasDefault => do
    if ← accept (sym ")") then return ([], [])
    unless first do
      expect (sym ",")
    if !first && (← accept (sym ")")) then return ([], [])
    let name ← target
    if ← accept (sym "=") then
      let value ← n.full
      let (names, values) ← parameters n fuel false true
      return (name :: names, value :: values)
    else if hasDefault then unexpectedNext
    else
      let (names, values) ← parameters n fuel false false
      return (name :: names, values)
where
  /-- Fails at the next token. -/
  unexpectedNext : Parser (List String × List Expr) := do
    let _ ← next
    unexpected

/-- Reads the rest of a macro. -/
def macroStatement (n : Nested) (body : Body) : Parser Stmt := do
  let name ← word
  expect (sym "(")
  let (names, values) ← parameters n ((← left) + 1) true false
  tagEnd
  let statements ← body ["endmacro"]
  let _ ← next
  return .define name names values statements

/-- Reads a statement by its first word. -/
def statement (n : Nested) (body : Body) : Parser Stmt := do
  match ← next with
  | some (.word "for") => forStatement n body
  | some (.word "if") => ifStatement n body ((← left) + 1)
  | some (.word "set") => setStatement n body
  | some (.word "macro") => macroStatement n body
  | _ => unexpected

/-- Reads statements up to a tag that begins with one of `ends`, or to the end. The tag is opened
and its word is left. -/
def statementsUntil (n : Nested) (body : Body) (ends : List String) : (fuel : Nat) →
    Parser (List Stmt)
  | 0 => return []
  | fuel + 1 => do
    match ← next with
    | none => return []
    | some (.text content) =>
      let more ← statementsUntil n body ends fuel
      return .text content :: more
    | some (.opening .variable) =>
      let e ← n.full
      expect (.closing .variable)
      let more ← statementsUntil n body ends fuel
      return .print e :: more
    | some (.opening .block) =>
      match ← peek with
      | none => unexpected
      | some token =>
        if ends.any (fun name => token = .word name) then return []
        let s ← statement n body
        tagEnd
        let more ← statementsUntil n body ends fuel
        return s :: more
    | some _ => unexpected

/-- How the statements inside statements are read that nest at most `depth` deep. -/
def bodyAt : (depth : Nat) → Body
  | 0, _ => unexpected
  | depth + 1, ends => do statementsUntil (nested depth) (bodyAt depth) ends ((← left) + 1)

/-- How deep a template may nest. -/
def depthLimit : Nat := 150

end Parser

/-- The statements of a template. -/
def parse (source : String) : Except Error (List Stmt) :=
  match Parser.bodyAt (Parser.depthLimit + 1) [] ⟨1, tokens source⟩ with
  | .ok (statements, _) => .ok statements
  | .error e => .error e

end Understudy.Template
