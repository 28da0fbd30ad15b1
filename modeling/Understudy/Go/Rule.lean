import Understudy.Go.Node
import Understudy.Go.Token

/-!
# Parsing expressions

A grammar is written as parsing expressions over tokens: sequences, ordered choices, options,
repetitions, look-ahead and the phrases of the grammar. A rule reads tokens from the front and
yields the nodes it has read and the tokens that are left.

Before each token blanks, line ends and comments may stand; they become nodes beside it. A node
begins with its first token, so what stands before that belongs to the parent, and it ends with
its last one.

A line end also terminates a phrase wherever the phrase may end and its surroundings ask for a
terminator (`Context.lines`). A rule that goes on with a phrase that may already be complete is
therefore put under `near`, which does not look beyond such a line end.

* `Rule.run` reads one rule, given how phrases are read.
* `Rule.read` reads a phrase of a grammar with a bound on the nesting of phrases.
-/

set_option autoImplicit false

namespace Understudy.Go

/-- The statements that may stand at a place, by the words that are keywords there. -/
inductive Place where
  | file
  | block
  | clause
deriving DecidableEq

/-- What a brace after the name of a type opens. -/
inductive Brace where
  /-- A composite literal. -/
  | literal
  /-- A composite literal after a name with a package or type arguments, and otherwise a block. -/
  | literalOfCompound
  /-- A block. -/
  | block
deriving DecidableEq

/-- What the surroundings of a phrase say about it. -/
structure Context where
  /-- A line end terminates what may end there. -/
  lines : Bool
  brace : Brace
  /-- The phrase begins a simple statement, so that `<-`, `++` and `--` after it belong to the
  statement. -/
  begins : Bool
  /-- The phrase may be the subject of a type switch. -/
  switches : Bool
  place : Place
deriving DecidableEq

/-- A parsing expression over the phrases `P`. -/
inductive Rule (P : Type) where
  /-- Reads nothing. -/
  | done
  /-- Matches nowhere. -/
  | fail
  /-- Reads one token, as a leaf of the given kind. -/
  | token (accepts : Context → Token → Bool) (kind : Kind)
  /-- Reads a terminator: a line end, a semicolon or a null character. -/
  | terminator
  /-- Reads what is left, which has to be trivia. -/
  | finish
  /-- Reads one after the other. -/
  | seq (first second : Rule P)
  /-- Reads the first, or the second where the first does not match. -/
  | alt (first second : Rule P)
  /-- Reads as often as the rule matches. -/
  | many (rule : Rule P)
  /-- Matches, reading nothing, where the rule does not. -/
  | absent (rule : Rule P)
  /-- Matches, reading nothing, where the rule does. -/
  | present (rule : Rule P)
  /-- Reads the rule unless a line end terminates what stands before it. -/
  | near (rule : Rule P)
  /-- Makes a node of what the rule reads. -/
  | node (kind : Kind) (rule : Rule P)
  /-- Gives a role to what the rule reads. -/
  | role (role : Role) (rule : Rule P)
  /-- Reads the rule in other surroundings. -/
  | within (change : Context → Context) (rule : Rule P)
  /-- Reads the rule where the surroundings allow it. -/
  | when (test : Context → Bool) (rule : Rule P)
  /-- Reads a phrase. -/
  | phrase (name : P)

/-- The nodes read and the tokens left, where a rule matches. -/
abbrev Reading := Option (List Node × List Token)

/-- The node that a token by itself becomes: trivia apart, it is punctuation or a keyword. -/
def Token.toNode (t : Token) : Node :=
  match t.kind with
  | .comment => .leaf none .comment t.text
  | .blank | .newline => .leaf none .space t.text
  | _ => .leaf none .mark t.text

/-- Splits off the tokens at the front that satisfy `p`, as nodes. -/
def takeNodes (p : Token → Bool) : List Token → List Node × List Token
  | [] => ([], [])
  | t :: ts =>
    if p t then
      let (ns, rest) := takeNodes p ts
      (t.toNode :: ns, rest)
    else ([], t :: ts)

/-- Reads the trivia at the front. -/
def takeTrivia (ts : List Token) : List Node × List Token := takeNodes Token.isTrivia ts

/-- Whether a line end comes before the next token. -/
def endsLine (ts : List Token) : Bool :=
  (ts.dropWhile Token.isInline).head?.any Token.isNewline

/-- Whether the token is a terminator. -/
def Token.isTerminator (t : Token) : Bool :=
  t.isNewline || t.isSymbol ";" || t.kind == .nul

/-- Gives the role to the nodes that are not trivia. -/
def giveRole (r : Role) (ns : List Node) : List Node :=
  ns.map (fun n => if n.isTrivia then n else n.withRole r)

namespace Rule

variable {P : Type}

/-- Repeats a reading up to `turns` times. -/
def repeated (one : List Token → Reading) : (turns : Nat) → List Token → List Node × List Token
  | 0, ts => ([], ts)
  | turns + 1, ts =>
    match one ts with
    | none => ([], ts)
    | some (ns, rest) =>
      let (more, left) := repeated one turns rest
      (ns ++ more, left)

/-- Reads a rule. `again` reads phrases, and `turns` bounds repetitions. -/
def run (again : Context → P → List Token → Reading) (turns : Nat) :
    Rule P → Context → List Token → Reading
  | done, _, ts => some ([], ts)
  | fail, _, _ => none
  | token accepts kind, ctx, ts =>
    match ts.dropWhile Token.isTrivia with
    | [] => none
    | t :: rest =>
      if accepts ctx t then some ((takeTrivia ts).1 ++ [.leaf none kind t.text], rest) else none
  | terminator, _, ts =>
    match ts.dropWhile Token.isInline with
    | [] => none
    | t :: rest =>
      if t.isTerminator then some ((takeNodes Token.isInline ts).1 ++ [t.toNode], rest) else none
  | finish, _, ts =>
    match takeTrivia ts with
    | (ns, []) => some (ns, [])
    | (_, _ :: _) => none
  | seq first second, ctx, ts =>
    match run again turns first ctx ts with
    | none => none
    | some (ns, rest) =>
      match run again turns second ctx rest with
      | none => none
      | some (more, left) => some (ns ++ more, left)
  | alt first second, ctx, ts =>
    match run again turns first ctx ts with
    | some reading => some reading
    | none => run again turns second ctx ts
  | many rule, ctx, ts => some (repeated (run again turns rule ctx) turns ts)
  | absent rule, ctx, ts =>
    match run again turns rule ctx ts with
    | some _ => none
    | none => some ([], ts)
  | present rule, ctx, ts =>
    match run again turns rule ctx ts with
    | some _ => some ([], ts)
    | none => none
  | near rule, ctx, ts =>
    if ctx.lines && endsLine ts then none else run again turns rule ctx ts
  | node kind rule, ctx, ts =>
    let (trivia, start) := takeTrivia ts
    match run again turns rule ctx start with
    | none => none
    | some (ns, rest) => some (trivia ++ [.tree none kind ns], rest)
  | role r rule, ctx, ts =>
    match run again turns rule ctx ts with
    | none => none
    | some (ns, rest) => some (giveRole r ns, rest)
  | within change rule, ctx, ts => run again turns rule (change ctx) ts
  | when test rule, ctx, ts => if test ctx then run again turns rule ctx ts else none
  | phrase name, ctx, ts => again ctx name ts

/-- Reads a phrase of the grammar, nesting phrases at most `fuel` deep. -/
def read (grammar : P → Rule P) : (fuel : Nat) → Context → P → List Token → Reading
  | 0, _, _, _ => none
  | fuel + 1, ctx, name, ts => (grammar name).run (read grammar fuel) fuel ctx ts

/-! ## Derived rules -/

/-- The rules one after the other. -/
def all : List (Rule P) → Rule P
  | [] => done
  | [r] => r
  | r :: rs => seq r (all rs)

/-- The first of the rules that matches. -/
def any : List (Rule P) → Rule P
  | [] => fail
  | [r] => r
  | r :: rs => alt r (any rs)

/-- The rule, or nothing. -/
def opt (r : Rule P) : Rule P := alt r done

/-- The rule once or more. -/
def some1 (r : Rule P) : Rule P := seq r (many r)

/-- A symbol. -/
def sym (s : String) : Rule P := token (fun _ t => t.isSymbol s) .mark

/-- A keyword. -/
def key (s : String) : Rule P := token (fun _ t => t.isWord s) .mark

/-- One of the given symbols. -/
def symIn (ss : List String) : Rule P :=
  token (fun _ t => t.kind == .symbol && ss.contains t.text) .mark

/-- A word other than the given ones, as a leaf of the given kind. -/
def word (reserved : List String) (kind : Kind) : Rule P :=
  token (fun _ t => t.kind == .word && !reserved.contains t.text) kind

/-- A literal token of the given kind. -/
def literal (kind : TokenKind) (leaf : Kind) : Rule P :=
  token (fun _ t => t.kind == kind) leaf

/-- One or more, with commas between them. A comma may begin a line. -/
def list (r : Rule P) : Rule P := seq r (many (seq (sym ",") r))

/-- One or more, with commas between them, where the list may end after each. -/
def openList (r : Rule P) : Rule P := seq r (many (near (seq (sym ",") r)))

/-- Any number, with terminators between them and possibly after the last. -/
def separated (r : Rule P) : Rule P :=
  opt (all [r, many (seq terminator r), opt terminator])

/-- Any number, with a terminator after each. -/
def terminated (r : Rule P) : Rule P := many (seq r terminator)

end Rule

end Understudy.Go
