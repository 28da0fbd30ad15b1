import Understudy.Go.Grammar.Statements

/-!
# Source files

A file is a row of declarations and statements, each with a terminator. Package clauses, imports
and statements may come in any order and number. The last item may lack its terminator if it is a
package clause, an import, a function, or a statement that ends in an operand.
-/

set_option autoImplicit false

namespace Understudy.Go.Grammar

open Rule

def packageClause : GoRule :=
  node .packageClause (seq (key "package") (name .packageIdentifier))

/-- An imported path with an optional name or dot before it. -/
def importSpec : GoRule :=
  node .importSpec (seq
    (opt (role .name (alt (token (fun _ t => t.isSymbol ".") .dot) (name .packageIdentifier))))
    (role .path stringP))

def importDeclaration : GoRule :=
  node .importDeclaration (seq (key "import") (alt importSpec
    (node .importSpecList (all [sym "(", byLine (separated importSpec), sym ")"]))))

def functionDeclaration : GoRule :=
  node .functionDeclaration (all [
    key "func", role .name (name .identifier), opt (role .typeParameters typeParameterList),
    role .parameters parametersP, opt (near result), opt (near (role .body blockP))])

def methodDeclaration : GoRule :=
  node .methodDeclaration (all [
    key "func", role .receiver parametersP, role .name (name .identifier),
    role .parameters parametersP, opt (near result), opt (near (role .body blockP))])

/-- The declarations that stand only directly in a file. -/
def fileDeclaration : GoRule :=
  any [packageClause, importDeclaration, functionDeclaration, methodDeclaration]

/-- The items of a whole file. -/
def sourceFile : GoRule :=
  all [
    terminated (alt fileDeclaration (phrase .statement)),
    opt (alt fileDeclaration valuedStatement),
    finish]

/-- The rule of each phrase. -/
def rules : Phrase → GoRule
  | .sourceFile => sourceFile
  | .type => anyType
  | .simpleType => simpleType
  | .parameters => parameterList
  | .expression => expression
  | .literalValue => literalValue
  | .block => block
  | .statement => statement
  | .ifStatement => ifStatement

/-- The surroundings of the items of a file. -/
def fileContext : Context := ⟨true, .literal, false, false, .file⟩

end Understudy.Go.Grammar

namespace Understudy.Go

/-- A bound on the nesting of phrases in a text of `n` tokens. -/
def nestingBound (n : Nat) : Nat := 8 * n + 16

/-- The syntax tree of a source text, if it follows the grammar. -/
def parse (source : String) : Option Node :=
  let ts := tokens source
  match Rule.read Grammar.rules (nestingBound ts.length) Grammar.fileContext .sourceFile ts with
  | some (items, _) => some (.tree none .sourceFile items)
  | none => none

end Understudy.Go
