import Understudy.Go.Grammar.Phrase

/-!
# Types

Type expressions, parameter lists, and the bodies of structures and interfaces.

A run of names in a parameter list directly followed by a type are the names of parameters of that
type; a run that ends otherwise is a run of types.
-/

set_option autoImplicit false

namespace Understudy.Go.Grammar

open Rule

/-! ## Named types -/

/-- A name that stands for a type. -/
def typeName : GoRule := word typeWords .typeIdentifier

/-- A name that a package exports. -/
def qualifiedType : GoRule :=
  node .qualifiedType (all [
    role .package (word typeWords .packageIdentifier), near (sym "."),
    role .name (name .typeIdentifier)])

/-- A type, or several of which one is meant. -/
def typeUnion : GoRule := seq typeP (many (near (seq (sym "|") typeP)))

/-- A type element of a constraint or an interface. -/
def typeElem : GoRule := node .typeElem typeUnion

/-- The types that make an instance of a generic type or function. -/
def typeArguments : GoRule :=
  node .typeArguments (all [
    sym "[", inside (all [list typeElem, opt (sym ",")]), sym "]"])

/-- An instance of the generic type that `r` reads. -/
def instanceOf (r : GoRule) : GoRule :=
  node .genericType (seq (role .type r) (near typeArguments))

/-- A name, with or without a package, with or without type arguments. -/
def namedType : GoRule :=
  any [instanceOf qualifiedType, qualifiedType, instanceOf typeName, typeName]

/-! ## Composite types -/

def pointerType : GoRule := node .pointerType (seq (sym "*") typeP)

def sliceType : GoRule := node .sliceType (all [sym "[", sym "]", role .element typeP])

def arrayType : GoRule :=
  node .arrayType (all [
    sym "[", role .length (inside expressionP), sym "]", role .element typeP])

/-- An array type whose length is that of the literal it begins. -/
def implicitLengthArrayType : GoRule :=
  node .implicitLengthArrayType (all [sym "[", sym "...", sym "]", role .element typeP])

def mapType : GoRule :=
  node .mapType (all [
    key "map", sym "[", role .key (inside typeP), sym "]", role .value typeP])

def channelType : GoRule :=
  node .channelType (any [
    all [key "chan", sym "<-", role .value typeP],
    all [key "chan", role .value typeP],
    all [sym "<-", key "chan", role .value typeP]])

/-- The result of a function: a list of parameters, or a type without parentheses. -/
def result : GoRule := role .result (alt parametersP (phrase .simpleType))

def functionType : GoRule :=
  node .functionType (all [key "func", role .parameters parametersP, opt (near result)])

def negatedType : GoRule := node .negatedType (seq (sym "~") typeP)

def parenthesizedType : GoRule :=
  node .parenthesizedType (all [sym "(", inside typeP, sym ")"])

/-! ## Structures -/

/-- What follows a complete field. -/
def fieldEnd : GoRule := present (alt terminator (sym "\x7d"))

/-- A field: names and their type, or an embedded type, with an optional tag. -/
def fieldDeclaration : GoRule :=
  let fieldName := role .name (name .identifier)
  let tag := opt (near (role .tag stringP))
  let embedded :=
    any [instanceOf qualifiedType, qualifiedType, instanceOf (name .typeIdentifier),
      name .typeIdentifier]
  any [
    node .fieldDeclaration (all [
      fieldName, some1 (seq (near (sym ",")) fieldName), role .type typeP, tag, fieldEnd]),
    node .fieldDeclaration (all [fieldName, near (role .type typeP), tag, fieldEnd]),
    node .fieldDeclaration (all [opt (sym "*"), role .type embedded, tag])]

def structType : GoRule :=
  node .structType (seq (key "struct") (node .fieldDeclarationList (all [
    sym "\x7b", byLine (separated fieldDeclaration), sym "\x7d"])))

/-! ## Interfaces -/

/-- A method of an interface. -/
def methodElem : GoRule :=
  node .methodElem (all [
    role .name (word typeWords .identifier), near (role .parameters parametersP),
    opt (near result)])

def interfaceType : GoRule :=
  node .interfaceType (all [
    key "interface", sym "\x7b", byLine (separated (alt methodElem typeElem)), sym "\x7d"])

/-! ## Parameters -/

/-- What follows a complete parameter. -/
def parameterEnd : GoRule := present (symIn [",", ")"])

/-- Any number of arguments of one type, with an optional name. -/
def variadicParameter : GoRule :=
  node .variadicParameterDeclaration (all [
    opt (role .name (word typeWords .identifier)), sym "...", role .type typeP])

/-- One or more names and their type. -/
def namedParameters : GoRule :=
  node .parameterDeclaration (all [
    role .name (word typeWords .identifier),
    many (seq (sym ",") (role .name (name .identifier))),
    role .type typeP, parameterEnd])

/-- A type without a name. -/
def unnamedParameter : GoRule := node .parameterDeclaration (role .type typeP)

/-- A list of parameters in parentheses. A comma may follow the last one, or stand alone. -/
def parameterList : GoRule :=
  node .parameterList (all [
    sym "(",
    inside (seq (opt (list (any [variadicParameter, namedParameters, unnamedParameter])))
      (opt (sym ","))),
    sym ")"])

/-- The names of type parameters and what they stand for. -/
def typeParameterDeclaration : GoRule :=
  node .typeParameterDeclaration (all [
    list (role .name (name .identifier)), role .type (node .typeConstraint typeUnion)])

/-- A list of type parameters in brackets. -/
def typeParameterList : GoRule :=
  node .typeParameterList (all [
    sym "[", inside (seq (list typeParameterDeclaration) (opt (sym ","))), sym "]"])

/-! ## All types -/

/-- A type that does not stand in parentheses. -/
def simpleType : GoRule :=
  any [namedType, pointerType, sliceType, arrayType, structType, interfaceType, mapType,
    channelType, functionType, instanceOf negatedType, negatedType]

/-- A type. -/
def anyType : GoRule := alt simpleType parenthesizedType

end Understudy.Go.Grammar
