import Understudy.Template.Error
import Understudy.Text.WhiteSpace

/-!
# Tokens of a template

A template is text with tags in it: `{{ … }}` prints an expression, `{% … %}` holds a
statement, and `{# … #}` is a comment. A raw block is text that holds no tags.

White space around tags is cut as follows. A mark `-` inside a delimiter cuts all white space on
that side of the tag, and a mark `+` none. Without a mark, a statement or a comment takes the
blanks between the start of its line and itself with it, and the line end right after it.

Each token carries the line on which it begins. A text that cannot be read ends in a bad token,
so that a fault before it is found first.

* `tokens` are the tokens of a template.
-/

set_option autoImplicit false

namespace Understudy.Template

open Text

/-- The tags that hold tokens. -/
inductive Tag where
  | variable
  | block
deriving DecidableEq, Repr

/-- A token. -/
inductive Token where
  | text (content : String)
  | opening (tag : Tag)
  | closing (tag : Tag)
  | word (name : String)
  | string (value : String)
  | number (value : Nat)
  | symbol (spelling : String)
  | bad (fault : Fault)
deriving DecidableEq, Repr

/-- A token and the line on which it begins. -/
structure Located where
  line : Nat
  token : Token
deriving DecidableEq, Repr

/-! ## White space -/

/-- What a delimiter says about the white space on its outer side. -/
inductive Mark where
  | default
  | keep
  | remove
deriving DecidableEq

/-- The mark that a character is. -/
def Mark.ofChar? : Option Char → Mark
  | some '-' => .remove
  | some '+' => .keep
  | _ => .default

/-- The number of line ends in a text. -/
def lineEnds (cs : List Char) : Nat := cs.count '\n'

/-- Whether the character ends a line. -/
def isLineEnd (c : Char) : Bool := c == '\n' || c == '\r'

/-- Whether the line holds only white space after `cs`, given whether it did before. -/
def blankAfter (blank : Bool) (cs : List Char) : Bool :=
  cs.foldl (fun b c => if isLineEnd c then true else b && isWhiteSpace c) blank

/-- The text without its last characters that satisfy `p`. -/
def dropWhileEnd (p : Char → Bool) (cs : List Char) : List Char :=
  (cs.reverse.dropWhile p).reverse

/-- The text without the blanks after its last line end, if nothing else stands there. -/
def stripLine (cs : List Char) : List Char :=
  let cut := dropWhileEnd (fun c => isWhiteSpace c && !isLineEnd c) cs
  if cut.isEmpty || cut.getLast?.any isLineEnd then cut else cs

/-- The text without one line end at its start. -/
def dropLineEnd (cs : List Char) : List Char :=
  let rest := if cs.head? = some '\r' then cs.tail else cs
  if rest.head? = some '\n' then rest.tail else rest

/-- White space inside tags. -/
def isTagSpace (c : Char) : Bool :=
  c == ' ' || c == '\t' || c == '\n' || c == '\r' || c == '\x0c'

/-! ## Openings -/

/-- What an opening delimiter opens. -/
inductive Opening where
  | tag (tag : Tag)
  | comment
deriving DecidableEq

/-- The opening that the two characters are. -/
def Opening.ofChars? : Char → Char → Option Opening
  | '{', '{' => some (.tag .variable)
  | '{', '%' => some (.tag .block)
  | '{', '#' => some .comment
  | _, _ => none

/-- Splits a text at its first opening delimiter. -/
def splitOpening : List Char → Option (List Char × Opening × List Char)
  | [] => none
  | c :: rest =>
    match rest with
    | [] => none
    | d :: after =>
      match Opening.ofChars? c d with
      | some opening => some ([], opening, after)
      | none =>
        match splitOpening rest with
        | some (lead, opening, left) => some (c :: lead, opening, left)
        | none => none

/-- Whether blanks before the opening go with it. -/
def Opening.takesBlanks : Opening → Bool
  | .tag .variable => false
  | _ => true

/-- The text before an opening, as it is kept. `blank` says whether its line held only white space
before the text. -/
def keptLead (blank : Bool) (opening : Opening) (mark : Mark) (lead : List Char) : List Char :=
  match mark with
  | .remove => dropWhileEnd isWhiteSpace lead
  | .keep => lead
  | .default =>
    if opening.takesBlanks && blankAfter blank lead then stripLine lead else lead

/-! ## Reading position -/

/-- Where reading stands. -/
structure Cursor where
  /-- The tag that is open. -/
  inside : Option Tag
  /-- Whether the line holds only white space so far. -/
  blank : Bool
  line : Nat
  /-- The line of the last token. -/
  last : Nat
  rest : List Char

/-- What a step of reading gives: tokens, and where to go on. -/
abbrev Step := List Located × Option Cursor

/-- Where reading goes on after a tag. The line end after a statement or a comment goes with it. -/
def afterTag (mark : Mark) (takesLineEnd : Bool) (line last : Nat) (rest : List Char) : Cursor :=
  let kept :=
    match mark with
    | .remove => rest.dropWhile isWhiteSpace
    | .keep => rest
    | .default => if takesLineEnd then dropLineEnd rest else rest
  let cut := rest.take (rest.length - kept.length)
  ⟨none, blankAfter false cut, line + lineEnds cut, last, kept⟩

/-- The text token for `cs`, if it is not empty. -/
def textToken (line : Nat) (cs : List Char) : List Located :=
  if cs.isEmpty then [] else [⟨line, .text (String.ofList cs)⟩]

/-- The end of reading at a text that cannot be read. -/
def stuck (line : Nat) (fault : Fault) : Step := ([⟨line, .bad fault⟩], none)

/-! ## Comments and raw blocks -/

/-- Splits a text at the first place where `a` and `b` stand side by side. -/
def splitPair (a b : Char) : List Char → Option (List Char × List Char)
  | [] => none
  | c :: rest =>
    if c = a ∧ rest.head? = some b then some ([], rest.tail)
    else
      match splitPair a b rest with
      | some (lead, left) => some (c :: lead, left)
      | none => none

/-- Removes `start` from the front of a text. -/
def takeStart (start cs : List Char) : Option (List Char) :=
  if start.isPrefixOf cs then some (cs.drop start.length) else none

/-- Reads a statement of one word up to its end, and its closing mark. -/
def wordTag (name : String) (cs : List Char) : Option (Mark × List Char) :=
  match takeStart name.toList (cs.dropWhile isTagSpace) with
  | none => none
  | some rest =>
    let rest := rest.dropWhile isTagSpace
    let mark := Mark.ofChar? rest.head?
    let rest := if mark = .default then rest else rest.tail
    match takeStart ['%', '}'] rest with
    | none => none
    | some left => some (mark, left)

/-- The text without an opening mark. -/
def dropMark (cs : List Char) : List Char :=
  if Mark.ofChar? cs.head? = .default then cs else cs.tail

/-- A raw block: its text, the marks of its end, and what follows. -/
structure RawBlock where
  body : List Char
  before : Mark
  after : Mark
  rest : List Char

/-- Reads a raw block up to its end. -/
def readRaw : List Char → Option RawBlock
  | [] => none
  | c :: rest =>
    let more :=
      match readRaw rest with
      | some raw => some { raw with body := c :: raw.body }
      | none => none
    if c = '{' ∧ rest.head? = some '%' then
      match wordTag "endraw" (dropMark rest.tail) with
      | some (mark, left) => some ⟨[], Mark.ofChar? rest.tail.head?, mark, left⟩
      | none => more
    else more

/-- The text of a raw block, as it is kept. -/
def keptRaw (mark : Mark) (raw : RawBlock) : List Char :=
  let start :=
    match mark with
    | .default => dropLineEnd raw.body
    | .remove => raw.body.dropWhile isWhiteSpace
    | .keep => raw.body
  match raw.before with
  | .default => stripLine start
  | .remove => dropWhileEnd isWhiteSpace start
  | .keep => start

/-- A raw block that begins after `used` and whose opening ends with `mark`. -/
def rawStep (mark : Mark) (line : Nat) (used rest : List Char) : Step :=
  let start := line + lineEnds used
  match readRaw rest with
  | none => stuck start .badSyntax
  | some raw =>
    let consumed := rest.take (rest.length - raw.rest.length)
    ([⟨start, .text (String.ofList (keptRaw mark raw))⟩],
      some (afterTag raw.after true (start + lineEnds consumed) start raw.rest))

/-- A comment after its opening. -/
def commentStep (line last : Nat) (rest : List Char) : Step :=
  match splitPair '#' '}' rest with
  | none => stuck line .badSyntax
  | some (body, left) =>
    ([], some (afterTag (Mark.ofChar? body.getLast?) true (line + lineEnds body) last left))

/-! ## Text -/

/-- Reads text and the opening after it. -/
def textStep (blank : Bool) (line last : Nat) (cs : List Char) : Step :=
  match splitOpening cs with
  | none => (textToken line cs, none)
  | some (lead, opening, after) =>
    let mark := Mark.ofChar? after.head?
    let rest := dropMark after
    let kept := textToken line (keptLead blank opening mark lead)
    let here := line + lineEnds lead
    let last := if kept.isEmpty then last else line
    let (ts, next) : Step :=
      match opening with
      | .comment => commentStep here last rest
      | .tag .variable =>
        ([⟨here, .opening .variable⟩], some ⟨some .variable, false, here, here, rest⟩)
      | .tag .block =>
        match wordTag "raw" rest with
        | some (mark, left) => rawStep mark here (rest.take (rest.length - left.length)) left
        | none => ([⟨here, .opening .block⟩], some ⟨some .block, false, here, here, rest⟩)
    (kept ++ ts, next)

/-! ## Inside tags -/

/-- The two characters that close a tag. -/
def Tag.closer : Tag → List Char
  | .variable => ['}', '}']
  | .block => ['%', '}']

/-- Reads the end of a tag, with its mark. -/
def closing? (tag : Tag) (cs : List Char) : Option (Mark × List Char) :=
  match takeStart tag.closer cs with
  | some rest => some (.default, rest)
  | none =>
    let mark := Mark.ofChar? cs.head?
    if mark = .default then none
    else
      match takeStart tag.closer cs.tail with
      | some rest => some (mark, rest)
      | none => none

/-- The length of a string literal's body, up to the closing quote. -/
def bodyLength (quote : Char) : (escaped : Bool) → List Char → Option Nat
  | _, [] => none
  | true, _ :: cs => (bodyLength quote false cs).map (· + 1)
  | false, c :: cs =>
    if c = quote then some 0
    else (bodyLength quote (c == '\\') cs).map (· + 1)

/-- The value of a hexadecimal digit. -/
def hexDigit? (c : Char) : Option Nat :=
  if '0' ≤ c ∧ c ≤ '9' then some (c.toNat - 48)
  else if 'a' ≤ c ∧ c ≤ 'f' then some (c.toNat - 87)
  else if 'A' ≤ c ∧ c ≤ 'F' then some (c.toNat - 55)
  else none

/-- The number that four hexadecimal digits at the front make. -/
def fourDigits? (cs : List Char) : Option Nat :=
  match cs with
  | a :: b :: c :: d :: _ => do
    let w ← hexDigit? a
    let x ← hexDigit? b
    let y ← hexDigit? c
    let z ← hexDigit? d
    return ((w * 16 + x) * 16 + y) * 16 + z
  | _ => none

/-- The character that a letter after a backslash stands for. -/
def simpleEscape? : Char → Option Char
  | '"' => some '"'
  | '\\' => some '\\'
  | '/' => some '/'
  | '\'' => some '\''
  | 'b' => some '\x08'
  | 'f' => some '\x0c'
  | 'n' => some '\n'
  | 'r' => some '\r'
  | 't' => some '\t'
  | _ => none

/-- Whether a number is one half of a pair that stands for a character beyond 16 bits. -/
def isSurrogate (n : Nat) : Bool := 0xd800 ≤ n && n ≤ 0xdfff

/-- The character that a pair of halves stands for. -/
def pairedChar? (high low : Nat) : Option Char :=
  if high < 0xdc00 ∧ 0xdc00 ≤ low then
    some (Char.ofNat (0x10000 + (high - 0xd800) * 0x400 + (low - 0xdc00)))
  else none

/-- The text that a string literal's body stands for. `pending` is the first half of a pair. -/
def unescapeBody : (fuel : Nat) → (pending : Option Nat) → List Char → Option (List Char)
  | _, some _, [] => none
  | _, none, [] => some []
  | 0, _, _ => none
  | fuel + 1, pending, '\\' :: c :: cs =>
    if c = 'u' then
      match fourDigits? cs, pending with
      | none, _ => none
      | some n, none =>
        if isSurrogate n then unescapeBody fuel (some n) (cs.drop 4)
        else (unescapeBody fuel none (cs.drop 4)).map (Char.ofNat n :: ·)
      | some n, some high =>
        match pairedChar? high n with
        | some x => (unescapeBody fuel none (cs.drop 4)).map (x :: ·)
        | none => none
    else
      match simpleEscape? c, pending with
      | some x, none => (unescapeBody fuel none cs).map (x :: ·)
      | _, _ => none
  | fuel + 1, none, c :: cs =>
    if c = '\\' then none else (unescapeBody fuel none cs).map (c :: ·)
  | _ + 1, some _, _ :: _ => none

/-- A character that may begin a word. -/
def isWordStart (c : Char) : Bool := c.isAlpha || c == '_'

/-- A character that may stand in a word. -/
def isWordChar (c : Char) : Bool := c.isAlphanum || c == '_'

/-- The symbols of two characters. -/
def pairSymbols : List String := ["//", "**", "==", "!=", ">=", "<="]

/-- The symbols of one character. -/
def singleSymbols : List Char :=
  ['+', '-', '*', '/', '%', '.', ',', ':', '~', '|', '=', '>', '<', '(', ')', '[', ']', '{',
    '}']

/-- The largest number that can be written. -/
def numberLimit : Nat := Nat.pow 2 128

/-- The number that digits of a base make, low lines aside, if all of them are digits of it. -/
def baseValue? (base : Nat) (cs : List Char) : Option Nat :=
  cs.foldl
    (fun n c =>
      if c = '_' then n
      else
        match n, hexDigit? c with
        | some n, some d => if d < base then some (n * base + d) else none
        | _, _ => none)
    (some 0)

/-- The base that the letter after a leading zero stands for. -/
def radix? : List Char → Option Nat
  | '0' :: c :: _ =>
    if c = 'b' ∨ c = 'B' then some 2
    else if c = 'o' ∨ c = 'O' then some 8
    else if c = 'x' ∨ c = 'X' then some 16
    else none
  | _ => none

/-- Whether the character belongs to a number of the given base, right or wrong. -/
def isNumberChar (base : Nat) (c : Char) : Bool :=
  c.isDigit || c == '_' || (base == 16 && (hexDigit? c).isSome)

/-- A number, unless its digits do not fit its base, it is too large or it ends in a low line, and
its length. -/
def numberLexeme (cs : List Char) : Token × Nat :=
  let base := (radix? cs).getD 10
  let lead := if (radix? cs).isSome then 2 else 0
  let digits := (cs.drop lead).takeWhile (isNumberChar base)
  let length := lead + digits.length
  match baseValue? base digits with
  | some value =>
    if digits.all (· == '_') ∨ digits.getLast? = some '_' ∨ numberLimit ≤ value then
      (.bad .badSyntax, length)
    else (.number value, length)
  | none => (.bad .badSyntax, length)

/-- A string literal and its length, quotes included. -/
def stringLexeme (quote : Char) (cs : List Char) : Token × Nat :=
  match bodyLength quote false cs with
  | none => (.bad .badSyntax, 1)
  | some n =>
    match unescapeBody (n + 1) none (cs.take n) with
    | some value => (.string (String.ofList value), n + 2)
    | none => (.bad .badEscape, n + 2)

/-- The first token inside a tag, and its length. -/
def lexeme (cs : List Char) : Token × Nat :=
  match cs with
  | [] => (.bad .badSyntax, 1)
  | c :: rest =>
    if pairSymbols.contains (String.ofList (cs.take 2)) then
      (.symbol (String.ofList (cs.take 2)), 2)
    else if singleSymbols.contains c then (.symbol (String.singleton c), 1)
    else if c = '"' ∨ c = '\'' then stringLexeme c rest
    else if c.isDigit then numberLexeme cs
    else if isWordStart c then
      let name := cs.takeWhile isWordChar
      (.word (String.ofList name), name.length)
    else (.bad .badSyntax, 1)

/-- Reads a token inside a tag, or the end of the tag. -/
def insideStep (tag : Tag) (line last : Nat) (cs : List Char) : Step :=
  let here := line + lineEnds (cs.takeWhile isTagSpace)
  let cs := cs.dropWhile isTagSpace
  if cs.isEmpty then ([], none)
  else
    match closing? tag cs with
    | some (mark, rest) => ([⟨here, .closing tag⟩], some (afterTag mark (tag = .block) here here rest))
    | none =>
      match lexeme cs with
      | (.bad .badEscape, _) => stuck last .badEscape
      | (.bad fault, _) => stuck here fault
      | (token, n) =>
        ([⟨here, token⟩],
          some ⟨some tag, false, here + lineEnds (cs.take n), here, cs.drop n⟩)

/-! ## The whole template -/

/-- One step of reading. -/
def Cursor.step (c : Cursor) : Step :=
  match c.inside with
  | none => textStep c.blank c.line c.last c.rest
  | some tag => insideStep tag c.line c.last c.rest

/-- Reads from a position on, in at most `fuel` steps. -/
def tokensFrom : (fuel : Nat) → Cursor → List Located
  | 0, _ => []
  | fuel + 1, c =>
    match c.step with
    | (ts, none) => ts
    | (ts, some next) => ts ++ tokensFrom fuel next

/-- The tokens of a template. Every step takes a character, or is the last one. -/
def tokens (source : String) : List Located :=
  let cs := source.toList
  tokensFrom (cs.length + 1) ⟨none, true, 1, 1, cs⟩

end Understudy.Template
