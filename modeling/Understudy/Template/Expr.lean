/-!
# Expressions and statements of a template

Every expression carries the line on which a fault in it is reported: that of the last part of it
that is evaluated before its own operation.
-/

set_option autoImplicit false

namespace Understudy.Template

/-- A constant written in a template. -/
inductive Literal where
  | none
  | bool (value : Bool)
  | int (value : Nat)
  | text (value : String)
deriving DecidableEq, Repr

/-- The operators between two values. -/
inductive BinaryOp where
  | add
  | subtract
  | multiply
  | divide
  | remainder
  | concat
  | equal
  | notEqual
  | less
  | lessEqual
  | greater
  | greaterEqual
  | member
deriving DecidableEq, Repr

/-- An expression. The arguments of a call, a filter or a test are in order; `keywords` names the
last ones of them. -/
inductive Expr where
  | literal (line : Nat) (value : Literal)
  | var (line : Nat) (name : String)
  | list (line : Nat) (items : List Expr)
  | attr (line : Nat) (base : Expr) (name : String)
  | item (line : Nat) (base index : Expr)
  | slice (line : Nat) (base start stop step : Expr)
  | call (line : Nat) (name : String) (args : List Expr) (keywords : List String)
  | method (line : Nat) (base : Expr) (name : String) (args : List Expr) (keywords : List String)
  | apply (line : Nat) (base : Expr) (args : List Expr) (keywords : List String)
  | filter (line : Nat) (base : Expr) (name : String) (args : List Expr) (keywords : List String)
  | test (line : Nat) (base : Expr) (name : String) (args : List Expr) (keywords : List String)
  | negate (line : Nat) (operand : Expr)
  | not (line : Nat) (operand : Expr)
  | binary (line : Nat) (op : BinaryOp) (left right : Expr)
  | and (line : Nat) (left right : Expr)
  | or (line : Nat) (left right : Expr)
  | ifElse (line : Nat) (test yes no : Expr)
  | ifOnly (line : Nat) (test yes : Expr)
deriving Repr

/-- The line on which a fault in the expression's own operation is reported. -/
def Expr.line : Expr → Nat
  | literal l _ | var l _ | list l _ | attr l _ _ | item l _ _ | slice l _ _ _ _ | call l _ _ _
  | method l _ _ _ _ | apply l _ _ _ | filter l _ _ _ _ | test l _ _ _ _ | negate l _ | not l _
  | binary l _ _ _ | and l _ _ | or l _ _ | ifElse l _ _ _ | ifOnly l _ _ => l

/-- The line of the last of the expressions, or `line` if there is none. -/
def lastLine (line : Nat) (es : List Expr) : Nat :=
  match es.getLast? with
  | some e => e.line
  | none => line

/-- A statement. -/
inductive Stmt where
  | text (content : String)
  | print (value : Expr)
  /-- Runs `body` for each item that passes the test, and `otherwise` if there is none. -/
  | forEach (target : String) (items : Expr) (test : Option Expr) (body otherwise : List Stmt)
  | branch (test : Expr) (yes no : List Stmt)
  | set (target : String) (value : Expr)
  /-- Sets `target` to what `body` prints. -/
  | capture (target : String) (body : List Stmt)
  /-- Declares a macro. The last parameters have the defaults. -/
  | define (name : String) (params : List String) (defaults : List Expr) (body : List Stmt)
deriving Repr

end Understudy.Template
