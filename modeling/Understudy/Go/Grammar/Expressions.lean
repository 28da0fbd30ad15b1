import Understudy.Go.Grammar.Types

/-!
# Expressions

An expression is a row of operands with operators between and before them; nothing that is made of
a source file depends on how operators bind, so they are not nested. Two symbols written together
that do not make an operator at a place are read as two operators there.
-/

set_option autoImplicit false

namespace Understudy.Go.Grammar

open Rule

/-! ## Operators -/

/-- The operators that stand before an operand, and pairs of them written together. -/
def prefixOperators : List String :=
  ["+", "-", "!", "^", "*", "&", "<-", "++", "--", "&&", "&^"]

/-- The operators that stand between operands. -/
def binaryOperators : List String :=
  ["*", "/", "%", "<<", ">>", "&", "&^", "+", "-", "|", "^", "==", "!=", "<", "<=", ">", ">=",
    "&&", "||"]

/-- Pairs of operators that belong to the statement where it has just begun, and otherwise are an
operator between operands and one before an operand. -/
def statementOperators : List String := ["<-", "++", "--"]

/-- An operator between operands. -/
def binaryOperator : GoRule :=
  token
    (fun ctx t => t.kind == .symbol &&
      (binaryOperators.contains t.text || (!ctx.begins && statementOperators.contains t.text)))
    .mark

/-! ## Operands -/

/-- A literal that is one token, or a predeclared constant. -/
def literalOperand : GoRule :=
  token
    (fun _ t => match t.kind with
      | .number | .rune | .string | .rawString => true
      | .word => ["nil", "true", "false", "iota"].contains t.text
      | _ => false)
    .literal

/-- The words `new` and `make`, whose arguments are a type and then expressions. Without arguments
they are names. -/
def allocation : GoRule :=
  seq (token (fun _ t => t.isWord "new" || t.isWord "make") .identifier)
    (alt
      (near (node .argumentList (all [
        sym "(",
        inside (opt (all [typeP, many (seq (sym ",") expressionP), opt (sym ",")])),
        sym ")"])))
      (absent (near (sym "("))))

/-- A function written as an expression. -/
def funcLiteral : GoRule :=
  node .funcLiteral (all [
    key "func", role .parameters parametersP, opt result, role .body blockP])

/-- The operand of a conversion. -/
def conversionArgument : GoRule :=
  node .argumentList (all [sym "(", inside (seq expressionP (opt (sym ","))), sym ")"])

/-- A type that begins a composite literal or a conversion. -/
def typeOperand : GoRule :=
  any [
    seq (any [mapType, sliceType, arrayType, structType])
      (alt (phrase .literalValue) conversionArgument),
    seq implicitLengthArrayType (phrase .literalValue),
    seq (any [channelType, interfaceType, functionType, instanceOf negatedType, negatedType])
      conversionArgument]

/-- A composite literal of a named type, where the surroundings leave the brace to it. -/
def namedLiteral : GoRule :=
  let named := word operandWords .typeIdentifier
  let exported :=
    node .qualifiedType (all [
      role .package (word operandWords .packageIdentifier), near (sym "."),
      role .name (name .typeIdentifier)])
  alt
    (when (fun c => c.brace != .block)
      (seq (any [instanceOf exported, exported, instanceOf named]) (near (phrase .literalValue))))
    (when (fun c => c.brace == .literal) (seq named (near (phrase .literalValue))))

/-- What an expression applies operators to. -/
def operand : GoRule :=
  any [
    literalOperand, allocation, funcLiteral, namedLiteral, word operandWords .identifier,
    typeOperand,
    all [sym "(", inside expressionP, sym ")"],
    seq parenthesizedType conversionArgument]

/-! ## What follows an operand -/

/-- An argument of a call, which three dots may spread. -/
def argument : GoRule := seq expressionP (opt (sym "..."))

def argumentList : GoRule :=
  node .argumentList (all [
    sym "(", inside (opt (all [list argument, opt (sym ",")])), sym ")"])

/-- The bounds of a slice after its first one. -/
def bounds : GoRule :=
  seq (sym ":") (opt (seq expressionP (opt (seq (sym ":") expressionP))))

/-- An index, bounds or type arguments in brackets. -/
def bracketed : GoRule :=
  let close := sym "]"
  any [
    all [sym "[", inside (alt (seq expressionP (opt bounds)) bounds), close],
    typeArguments]

/-- A field, a method or a type assertion. The word `type` in parentheses makes a type switch of
its surroundings. -/
def selection : GoRule :=
  seq (sym ".") (alt (name .identifier)
    (all [
      sym "(", absent (when Context.switches (seq (key "type") (sym ")"))), inside typeP,
      sym ")"]))

/-- What may follow an operand. -/
def suffix : GoRule := any [selection, argumentList, bracketed]

/-- An operand with what stands before and after it. -/
def operandPhrase : GoRule :=
  all [many (symIn prefixOperators), operand, many (near suffix)]

/-- A row of operands with operators between them. -/
def expression : GoRule :=
  node .expression
    (seq operandPhrase (many (near (seq binaryOperator operandPhrase))))

/-! ## Composite literals -/

/-- An element of a composite literal. -/
def literalElement : GoRule := alt expressionP (phrase .literalValue)

/-- The elements of a composite literal in braces. -/
def literalValue : GoRule :=
  node .literalValue (all [
    sym "\x7b",
    inside (seq (opt (list (seq literalElement (opt (seq (sym ":") literalElement)))))
      (opt (sym ","))),
    sym "\x7d"])

end Understudy.Go.Grammar
