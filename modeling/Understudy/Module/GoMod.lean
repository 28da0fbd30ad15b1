import Understudy.Go.StringLiteral
import Understudy.Text.WhiteSpace

/-!
# The module directive of a `go.mod` file

A `go.mod` file is read line by line. Comments are dropped and the rest of a line is split into
words. A line `verb (` opens a block, a line that begins with `)` closes it, and a module statement
is a line of a `module` block or a line `module …` outside any block. Exactly one module statement
with exactly one argument has to stand in the file.

* `stripComment` drops a trailing comment.
* `modulePath` is the path that the file declares.
-/

set_option autoImplicit false

namespace Understudy.GoMod

open Go Text

/-- Why a file declares no module. Line numbers count from one. -/
inductive GoModError where
  | repeatedStatement (line : Nat)
  | badArguments (line : Nat)
  | badLiteral (line : Nat) (cause : LiteralError)
  | emptyPath (line : Nat)
  | unterminatedBlock
  | noDirective
deriving DecidableEq

/-- The wording of each cause. -/
def GoModError.message : GoModError → String
  | .repeatedStatement n => "go.mod:" ++ toString n ++ ": repeated module statement"
  | .badArguments n => "go.mod:" ++ toString n ++ ": usage: module module/path"
  | .badLiteral n e => "go.mod:" ++ toString n ++ ": invalid quoted string: " ++ e.message
  | .emptyPath n => "go.mod:" ++ toString n ++ ": empty module path"
  | .unterminatedBlock => "go.mod: unterminated block"
  | .noDirective => "go.mod: no module directive"

/-! ## Comments -/

/-- Whether the character opens a quotation. -/
def isQuote (c : Char) : Bool := c == '"' || c == '`'

/-- The quotation that is open after `c`, when `q` was open before it. A double quote right after a
backslash does not close. -/
def afterQuoted (q prev c : Char) : Option Char :=
  if c = q ∧ (q = '`' ∨ prev ≠ '\\') then none else some q

/-- The offset of the second slash of a comment, in a line that is read from offset `i` on. `quote`
is the quotation that is open and `prev` the character before. -/
def slashFrom (quote : Option Char) (prev : Char) (i : Nat) : List Char → Option Nat
  | [] => none
  | c :: cs =>
    match quote with
    | some q => slashFrom (afterQuoted q prev c) c (i + c.utf8Size) cs
    | none =>
      if isQuote c then slashFrom (some c) c (i + c.utf8Size) cs
      else if c = '/' ∧ prev = '/' then some i
      else slashFrom none c (i + c.utf8Size) cs

/-- The byte at which the second slash of a trailing comment stands. -/
def slashAt? (line : List Char) : Option Nat := slashFrom none '\x00' 0 line

/-- The characters in the first `n` bytes, if these end with a character. -/
def firstBytes? : (n : Nat) → List Char → Option (List Char)
  | 0, _ => some []
  | _ + 1, [] => none
  | n + 1, c :: cs =>
    if c.utf8Size ≤ n + 1 then (firstBytes? (n + 1 - c.utf8Size) cs).map (c :: ·) else none

/-- The line without a trailing comment, which begins one byte before its second slash. -/
def stripComment (line : List Char) : List Char :=
  match slashAt? line with
  | none => line
  | some i => (firstBytes? (i - 1) line).getD []

/-! ## Lines -/

/-- The words of a line, comments aside. -/
def lineWords (line : List Char) : List String :=
  (words (stripComment line)).map String.ofList

/-- Whether an argument is written as a string literal. -/
def isLiteral (arg : String) : Bool := arg.toList.head?.any isQuote

/-- The path that the arguments of a module statement on line `n` give. -/
def argumentPath (n : Nat) : List String → Except GoModError String
  | [arg] =>
    let path : Except GoModError String :=
      if isLiteral arg then
        match unquote arg with
        | .ok s => .ok s
        | .error e => .error (.badLiteral n e)
      else .ok arg
    match path with
    | .error e => .error e
    | .ok s => if s = "" then .error (.emptyPath n) else .ok s
  | _ => .error (.badArguments n)

/-- The path after a module statement on line `n`, when `found` is the path declared before it. -/
def declare (found : Option String) (n : Nat) (args : List String) : Except GoModError String :=
  match found with
  | some _ => .error (.repeatedStatement n)
  | none => argumentPath n args

/-- Reads the lines from line `n` on. `block` is the verb of the block that is open and `found` the
path declared so far. -/
def readLines (block found : Option String) (n : Nat) :
    List (List Char) → Except GoModError String
  | [] =>
    match block, found with
    | some _, _ => .error .unterminatedBlock
    | none, some path => .ok path
    | none, none => .error .noDirective
  | line :: rest =>
    match lineWords line, block with
    | [], _ => readLines block found (n + 1) rest
    | first :: args, some verb =>
      if first = ")" then readLines none found (n + 1) rest
      else if verb = "module" then
        match declare found n (first :: args) with
        | .error e => .error e
        | .ok path => readLines block (some path) (n + 1) rest
      else readLines block found (n + 1) rest
    | first :: args, none =>
      if args = ["("] then readLines (some first) found (n + 1) rest
      else if first = "module" then
        match declare found n args with
        | .error e => .error e
        | .ok path => readLines none (some path) (n + 1) rest
      else readLines none found (n + 1) rest

/-- The module path that the text of a `go.mod` file declares. -/
def modulePath (content : String) : Except GoModError String :=
  readLines none none 1 (lines content.toList)

end Understudy.GoMod
