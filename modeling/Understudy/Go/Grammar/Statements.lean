import Understudy.Go.Grammar.Expressions

/-!
# Statements and declarations

Declarations of constants, variables and types, simple statements, and the statements with
headers. The groups of a declaration ask for a terminator after each item, the last one included.
-/

set_option autoImplicit false

namespace Understudy.Go.Grammar

open Rule

/-! ## Declarations -/

/-- One item, or a group of items in parentheses with a terminator after each. -/
def grouped (item : GoRule) : GoRule :=
  alt item (all [sym "(", byLine (terminated item), sym ")"])

/-- The value part of a declaration. -/
def values : GoRule := seq (sym "=") expressions

/-- Names of constants, with or without values. -/
def constSpec : GoRule :=
  node .constSpec (seq (openList (role .name (name .identifier)))
    (opt (near (seq (opt (role .type typeP)) values))))

/-- Names of variables with a type, values or both. -/
def varSpec : GoRule :=
  node .varSpec (seq (list (role .name (name .identifier)))
    (alt (seq (role .type typeP) (opt (near values))) values))

/-- A type declaration or an alias. Brackets that hold an expression make an array type, and
otherwise type parameters. -/
def typeSpec : GoRule :=
  let declared := role .name (name .typeIdentifier)
  any [
    node .typeAlias (all [declared, sym "=", role .type typeP]),
    node .typeSpec (all [declared, role .type typeP]),
    node .typeSpec (all [declared, role .typeParameters typeParameterList, role .type typeP])]

def constDeclaration : GoRule := node .constDeclaration (seq (key "const") (grouped constSpec))

def varDeclaration : GoRule := node .varDeclaration (seq (key "var") (grouped varSpec))

def typeDeclaration : GoRule := node .typeDeclaration (seq (key "type") (grouped typeSpec))

/-! ## Simple statements -/

/-- The operators of an assignment. -/
def assignmentOperators : List String :=
  ["=", ":=", "+=", "-=", "*=", "/=", "%=", "&=", "|=", "^=", "<<=", ">>=", "&^="]

/-- An assignment operator and the values. -/
def assignment : GoRule := seq (symIn assignmentOperators) (following expressions)

/-- Further expressions on the left of an assignment. -/
def moreTargets : GoRule :=
  seq (near (sym ",")) (inside (list expressionP))

/-- What makes an assignment or a send of an expression; its value ends in an operand. -/
def valuedTail : GoRule :=
  any [
    seq moreTargets assignment,
    near assignment,
    near (seq (sym "<-") (following expressionP))]

/-- What makes a statement other than an expression of an expression. -/
def simpleTail : GoRule := alt valuedTail (near (symIn ["++", "--"]))

/-- A simple statement: an expression, an assignment, a send or an increment. -/
def simpleStatement : GoRule := seq (beginning expressionP) (opt simpleTail)

/-! ## Blocks and labels -/

/-- A name that may label a statement here. -/
def labelName : GoRule :=
  seq (absent placeWord) (role .label (word operandWords .identifier))

/-- A label with nothing after it, at the end of a list of statements. -/
def bareLabel : GoRule := node .labeledStatement (seq labelName (near (sym ":")))

def labeledStatement : GoRule :=
  node .labeledStatement (all [labelName, near (sym ":"), phrase .statement])

/-- Statements with terminators between them. A bare label may end them. -/
def statements : GoRule :=
  alt
    (all [phrase .statement, many (seq terminator (phrase .statement)),
      opt (seq terminator (opt bareLabel))])
    bareLabel

def block : GoRule := node .block (all [sym "\x7b", inBlock (opt statements), sym "\x7d"])

/-! ## Statements with headers -/

/-- The statements after the head of a clause. -/
def clauseBody : GoRule := seq (sym ":") (inClause (opt statements))

/-- A clause that holds when no other does. -/
def defaultClause : GoRule := node .clause (seq (key "default") clauseBody)

/-- A clause whose head is `head`. -/
def caseClause (head : GoRule) : GoRule :=
  node .clause (all [key "case", inside head, clauseBody])

/-- Clauses in braces. -/
def clauses (head : GoRule) : GoRule :=
  all [sym "\x7b", many (alt (caseClause head) defaultClause), sym "\x7d"]

/-- The condition of a header, or its first part. -/
def condition : GoRule := beforeBlock expressionP

/-- The first expression of a header, which may turn out to begin a simple statement. -/
def headerStart : GoRule := beforeBlock (beginning expressionP)

/-- What makes a simple statement of the first expression of a header. -/
def headerTail : GoRule := inside simpleTail

/-- The brace that a block begins with. -/
def openBrace : GoRule := sym "\x7b"

def ifHeader : GoRule := seq headerStart (opt (all [opt headerTail, sym ";", condition]))

def ifStatement : GoRule :=
  node .statement (all [
    key "if", header ifHeader openBrace, blockP,
    opt (near (seq (key "else") (alt (phrase .ifStatement) blockP)))])

/-- The parts of a counting loop after its first semicolon. -/
def countingLoop : GoRule :=
  all [opt (inside expressionP), sym ";", opt (beforeBlock simpleStatement)]

/-- The values that a loop ranges over. -/
def ranged : GoRule := seq (key "range") condition

def forHeader : GoRule :=
  let target := symIn [":=", "="]
  any [
    present openBrace,
    ranged,
    seq (sym ";") countingLoop,
    all [absent (key "range"), headerStart, any [
      all [opt (inside moreTargets), target, ranged],
      all [opt (seq (absent (all [opt (inside moreTargets), target, key "range"])) headerTail),
        sym ";", countingLoop],
      done]]]

def forStatement : GoRule :=
  node .statement (all [key "for", header forHeader openBrace, blockP])

/-- The mark of a type switch. -/
def typeMark : GoRule := all [sym ".", sym "(", key "type", sym ")"]

/-- The beginning of a list of clauses. -/
def openClauses : GoRule := seq openBrace (any [key "case", key "default", sym "\x7d"])

/-- The header of a switch on what `r` reads, after an initial statement if there is one. -/
def switchHeader (r : GoRule) : GoRule :=
  header (alt (seq r (present openClauses)) (all [headerStart, opt headerTail, sym ";", r]))
    openClauses

/-- The value that a switch is on, which may be missing. -/
def valueSubject : GoRule := alt (present openClauses) (subject condition)

/-- The value whose type a switch is on, and a name for it. -/
def typeSubject : GoRule :=
  all [
    subject condition,
    opt (all [opt (inside moreTargets), sym ":=", subject condition]),
    typeMark]

def switchStatement : GoRule :=
  node .statement (seq (key "switch") (alt
    (seq (switchHeader typeSubject) (clauses (list typeP)))
    (seq (switchHeader valueSubject) (clauses (list expressionP)))))

/-- A send or a receipt, the head of a clause of a select. -/
def communication : GoRule :=
  seq (beginning expressionP) (opt (alt
    (seq (sym "<-") (following expressionP))
    (all [opt moreTargets, symIn ["=", ":="], following expressionP])))

def selectStatement : GoRule := node .statement (seq (key "select") (clauses communication))

/-! ## All statements -/

/-- A name that may label a jump, unless it ends the statements of a clause. -/
def jumpTarget : GoRule :=
  seq
    (absent (token
      (fun ctx t => t.kind == .word && (closingWords ctx.place).contains t.text) .mark))
    (name .identifier)

/-- A statement that a keyword begins and that ends in an operand. -/
def valuedKeywordStatement : GoRule :=
  node .statement (any [
    seq (key "return") (near expressions),
    seq (key "go") expressionP,
    seq (key "defer") expressionP])

def statement : GoRule :=
  any [
    constDeclaration, varDeclaration, typeDeclaration, valuedKeywordStatement,
    node .statement (key "return"), ifStatement, forStatement, switchStatement, selectStatement,
    node .statement (sym ";"),
    node .statement (seq (alt (key "break") (key "continue")) (opt (near jumpTarget))),
    node .statement (seq (key "goto") (name .identifier)),
    node .statement (key "fallthrough"),
    blockP, labeledStatement,
    node .statement (all [absent placeWord, absent bareLabel, simpleStatement])]

/-- A statement that ends in an operand: a declaration with values, an assignment, a send, or a
keyword and its operands. -/
def valuedStatement : GoRule :=
  let labels := many (seq labelName (near (sym ":")))
  seq labels (any [
    node .constDeclaration (all [
      key "const",
      node .constSpec (all [
        openList (role .name (name .identifier)), opt (role .type typeP), values])]),
    node .varDeclaration (all [
      key "var",
      node .varSpec (all [
        list (role .name (name .identifier)), opt (role .type typeP), values])]),
    valuedKeywordStatement,
    node .statement (all [absent placeWord, beginning expressionP, valuedTail])])

end Understudy.Go.Grammar
