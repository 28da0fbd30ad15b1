/-!
# Syntax trees of Go source

A syntax tree keeps every token, so its leaves spell the source back. A node has a kind and, where
its parent gives it one, a role. Punctuation, keywords and blanks are leaves without a name of
their own; all other nodes, comments among them, are named.

* `Node.text` is the source that a node covers.
* `Node.named` are its named children.
* `Node.child?` and `Node.childrenIn` pick children by role.
-/

set_option autoImplicit false

namespace Understudy.Go

/-- The kinds of nodes. -/
inductive Kind where
  | sourceFile
  | packageClause
  | packageIdentifier
  | importDeclaration
  | importSpecList
  | importSpec
  | dot
  | stringLiteral
  | rawStringLiteral
  | functionDeclaration
  | methodDeclaration
  | parameterList
  | parameterDeclaration
  | variadicParameterDeclaration
  | constDeclaration
  | constSpec
  | varDeclaration
  | varSpec
  | typeDeclaration
  | typeSpec
  | typeAlias
  | typeParameterList
  | typeParameterDeclaration
  | typeConstraint
  | typeArguments
  | typeElem
  | methodElem
  | typeIdentifier
  | qualifiedType
  | genericType
  | pointerType
  | sliceType
  | arrayType
  | implicitLengthArrayType
  | mapType
  | channelType
  | functionType
  | structType
  | interfaceType
  | negatedType
  | parenthesizedType
  | fieldDeclarationList
  | fieldDeclaration
  | identifier
  | literal
  | expression
  | funcLiteral
  | literalValue
  | argumentList
  | block
  | statement
  | labeledStatement
  | clause
  | comment
  | mark
  | space
deriving DecidableEq

namespace Kind

/-- The name of a kind, as messages write it. -/
def name : Kind → String
  | sourceFile => "source_file"
  | packageClause => "package_clause"
  | packageIdentifier => "package_identifier"
  | importDeclaration => "import_declaration"
  | importSpecList => "import_spec_list"
  | importSpec => "import_spec"
  | dot => "dot"
  | stringLiteral => "interpreted_string_literal"
  | rawStringLiteral => "raw_string_literal"
  | functionDeclaration => "function_declaration"
  | methodDeclaration => "method_declaration"
  | parameterList => "parameter_list"
  | parameterDeclaration => "parameter_declaration"
  | variadicParameterDeclaration => "variadic_parameter_declaration"
  | constDeclaration => "const_declaration"
  | constSpec => "const_spec"
  | varDeclaration => "var_declaration"
  | varSpec => "var_spec"
  | typeDeclaration => "type_declaration"
  | typeSpec => "type_spec"
  | typeAlias => "type_alias"
  | typeParameterList => "type_parameter_list"
  | typeParameterDeclaration => "type_parameter_declaration"
  | typeConstraint => "type_constraint"
  | typeArguments => "type_arguments"
  | typeElem => "type_elem"
  | methodElem => "method_elem"
  | typeIdentifier => "type_identifier"
  | qualifiedType => "qualified_type"
  | genericType => "generic_type"
  | pointerType => "pointer_type"
  | sliceType => "slice_type"
  | arrayType => "array_type"
  | implicitLengthArrayType => "implicit_length_array_type"
  | mapType => "map_type"
  | channelType => "channel_type"
  | functionType => "function_type"
  | structType => "struct_type"
  | interfaceType => "interface_type"
  | negatedType => "negated_type"
  | parenthesizedType => "parenthesized_type"
  | fieldDeclarationList => "field_declaration_list"
  | fieldDeclaration => "field_declaration"
  | identifier => "identifier"
  | literal => "literal"
  | expression => "expression"
  | funcLiteral => "func_literal"
  | literalValue => "literal_value"
  | argumentList => "argument_list"
  | block => "block"
  | statement => "statement"
  | labeledStatement => "labeled_statement"
  | clause => "clause"
  | comment => "comment"
  | mark => "mark"
  | space => "space"

/-- Whether nodes of the kind are named: all but punctuation, keywords and blanks. -/
def isNamed : Kind → Bool
  | mark | space => false
  | _ => true

/-- Whether nodes of the kind may stand between any two tokens. -/
def isTrivia : Kind → Bool
  | comment | space => true
  | _ => false

end Kind

/-- What a node is to its parent. -/
inductive Role where
  | name
  | path
  | receiver
  | parameters
  | result
  | body
  | typeParameters
  | type
  | package
  | element
  | length
  | key
  | value
  | tag
  | label
deriving DecidableEq

/-- A syntax tree. -/
inductive Node where
  | leaf (role : Option Role) (kind : Kind) (text : String)
  | tree (role : Option Role) (kind : Kind) (parts : List Node)

namespace Node

/-- What the node is to its parent. -/
def role : Node → Option Role
  | leaf r _ _ => r
  | tree r _ _ => r

def kind : Node → Kind
  | leaf _ k _ => k
  | tree _ k _ => k

/-- All children, in source order. -/
def parts : Node → List Node
  | leaf _ _ _ => []
  | tree _ _ ps => ps

/-- The same node in another role. -/
def withRole (r : Role) : Node → Node
  | leaf _ k t => leaf (some r) k t
  | tree _ k ps => tree (some r) k ps

mutual

/-- The source that the node covers. -/
def text : Node → String
  | leaf _ _ t => t
  | tree _ _ ps => textOfAll ps

/-- The source that neighbouring nodes cover. -/
def textOfAll : List Node → String
  | [] => ""
  | n :: ns => n.text ++ textOfAll ns

end

def isNamed (n : Node) : Bool := n.kind.isNamed

def isTrivia (n : Node) : Bool := n.kind.isTrivia

/-- The named children, in source order. -/
def named (n : Node) : List Node := n.parts.filter isNamed

/-- The children in the given role, in source order. -/
def childrenIn (r : Role) (n : Node) : List Node := n.parts.filter (fun m => m.role == some r)

/-- The first child in the given role. -/
def child? (r : Role) (n : Node) : Option Node := n.parts.find? (fun m => m.role == some r)

mutual

/-- The node and all its named descendants, each before its own descendants. -/
def preorder : Node → List Node
  | leaf r k t => [leaf r k t]
  | tree r k ps => tree r k ps :: preorderOfAll ps

/-- The named ones of neighbouring nodes, each with its named descendants. -/
def preorderOfAll : List Node → List Node
  | [] => []
  | n :: ns => if n.isNamed then n.preorder ++ preorderOfAll ns else preorderOfAll ns

end

end Node

end Understudy.Go
