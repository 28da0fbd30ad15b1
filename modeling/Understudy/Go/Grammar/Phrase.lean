import Understudy.Go.Rule

/-!
# Phrases and surroundings

The phrases of the Go grammar that contain one another, the words that are keywords at a place,
and the surroundings that brackets, blocks and statement headers make.

A word that is a keyword of the language is still a name wherever the keyword could not stand.
-/

set_option autoImplicit false

namespace Understudy.Go

/-- The phrases that may nest. -/
inductive Phrase where
  | sourceFile
  | type
  | simpleType
  | parameters
  | expression
  | literalValue
  | block
  | statement
  | ifStatement
deriving DecidableEq

namespace Grammar

open Rule

/-- A rule of the Go grammar. -/
abbrev GoRule := Rule Phrase

/-! ## Keywords -/

/-- The keywords that begin a type. -/
def typeWords : List String := ["func", "struct", "map", "chan", "interface"]

/-- The keywords that begin an operand. -/
def operandWords : List String :=
  typeWords ++ ["nil", "true", "false", "iota", "new", "make"]

/-- The keywords that begin a statement in a block. -/
def statementWords : List String :=
  ["const", "var", "type", "return", "go", "defer", "if", "for", "switch", "select", "break",
    "continue", "goto", "fallthrough"]

/-- The keywords that begin or end a statement at the given place, operands apart. -/
def placeWords : Place → List String
  | .file => "package" :: "import" :: statementWords
  | .block => statementWords
  | .clause => "case" :: "default" :: statementWords

/-- The keywords that end the statements of the given place. -/
def closingWords : Place → List String
  | .clause => ["case", "default"]
  | _ => []

/-- A word that begins a statement at this place. -/
def placeWord : GoRule :=
  token (fun ctx t => t.kind == .word && (placeWords ctx.place).contains t.text) .mark

/-! ## Surroundings -/

/-- Inside brackets or between the parts of a phrase that is not complete: line ends are blanks. -/
def inside (r : GoRule) : GoRule :=
  within (fun c => { c with lines := false, brace := .literal, begins := false, switches := false }) r

/-- Among items that line ends terminate. -/
def byLine (r : GoRule) : GoRule :=
  within
    (fun c => { c with lines := true, brace := .literal, begins := false, switches := false }) r

/-- Statements of a block. -/
def inBlock (r : GoRule) : GoRule :=
  within (fun _ => ⟨true, .literal, false, false, .block⟩) r

/-- Statements of a clause of a switch or select. -/
def inClause (r : GoRule) : GoRule :=
  within (fun _ => ⟨true, .literal, false, false, .clause⟩) r

/-- The first expression of a simple statement. -/
def beginning (r : GoRule) : GoRule := within (fun c => { c with begins := true }) r

/-- What follows the first expression of a simple statement. -/
def following (r : GoRule) : GoRule := within (fun c => { c with begins := false }) r

/-- What a block may follow: a brace that opens no literal opens the block, and line ends are
blanks. -/
def beforeBlock (r : GoRule) : GoRule :=
  within (fun c => { c with lines := false, begins := false }) r

/-- A header, which an opening brace follows. A brace after a compound type name opens a literal if
another brace follows the header then, as `follows` says, and otherwise ends the header. -/
def header (r follows : GoRule) : GoRule :=
  alt
    (seq (within (fun c => { c with brace := .literalOfCompound }) r) (present follows))
    (seq (within (fun c => { c with brace := .block }) r) (present follows))

/-- The subject of a switch. -/
def subject (r : GoRule) : GoRule := within (fun c => { c with switches := true }) r

/-! ## Common parts -/

def typeP : GoRule := phrase .type

def expressionP : GoRule := phrase .expression

def blockP : GoRule := phrase .block

def parametersP : GoRule := phrase .parameters

/-- A string literal, interpreted or raw. -/
def stringP : GoRule :=
  alt (literal .string .stringLiteral) (literal .rawString .rawStringLiteral)

/-- A name where no keyword can stand. -/
def name (kind : Kind) : GoRule := word [] kind

/-- Expressions with commas between them, where the list may end after each. -/
def expressions : GoRule := openList expressionP

end Grammar

end Understudy.Go
