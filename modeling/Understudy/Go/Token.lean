import Understudy.Text.Identifier

/-!
# Tokens of Go source

The source is cut into tokens one after the other, each as long as possible, and every character
belongs to a token, so that the tokens spell the source back. Blanks, line ends and comments are
tokens too: whether a line end matters is for the grammar to say. Words are not sorted into
keywords and names for the same reason. A character that begins no token is a stray one.

* `Token.extent` says what kind of token begins at a character and how far it reaches.
* `tokens` cuts a whole text.
-/

set_option autoImplicit false

namespace Understudy.Go

/-- The kinds of tokens. -/
inductive TokenKind where
  | word
  | number
  | rune
  | string
  | rawString
  | symbol
  | nul
  | newline
  | blank
  | comment
  | stray
deriving DecidableEq

/-- A token and the text it covers. -/
structure Token where
  kind : TokenKind
  text : String
deriving DecidableEq

namespace Token

/-- Whether the token stands between the tokens of a phrase without being part of it. -/
def isTrivia (t : Token) : Bool :=
  match t.kind with
  | .blank | .comment | .newline => true
  | _ => false

/-- Whether the token is trivia other than a line end. -/
def isInline (t : Token) : Bool :=
  match t.kind with
  | .blank | .comment => true
  | _ => false

/-- Whether the token ends a line. -/
def isNewline (t : Token) : Bool := t.kind == .newline

/-- Whether the token is the given symbol. -/
def isSymbol (s : String) (t : Token) : Bool := t.kind == .symbol && t.text == s

/-- Whether the token is the given word. -/
def isWord (s : String) (t : Token) : Bool := t.kind == .word && t.text == s

/-! ## Characters -/

/-- Blanks other than the line end. -/
def isBlank (c : Char) : Bool :=
  c == ' ' || c == '\t' || c == '\x0b' || c == '\x0c' || c == '\r'

/-- The byte order mark, a blank at the start of a text. -/
def byteOrderMark : Char := '\ufeff'

def isDecimal (c : Char) : Bool := c.isDigit

def isHex (c : Char) : Bool := c.isDigit || ('a' ≤ c && c ≤ 'f') || ('A' ≤ c && c ≤ 'F')

def isOctal (c : Char) : Bool := '0' ≤ c && c ≤ '7'

def isBinary (c : Char) : Bool := c == '0' || c == '1'

/-- Whether the text begins with `n` hexadecimal digits. -/
def startsWithHex (n : Nat) (cs : List Char) : Bool :=
  decide (n ≤ cs.length) && (cs.take n).all isHex

/-- The number of leading characters that satisfy `p`. -/
def runLength (p : Char → Bool) : List Char → Nat
  | [] => 0
  | c :: cs => if p c then runLength p cs + 1 else 0

/-! ## Comments -/

/-- The length of a block comment's body with its end mark, if it ends. -/
def blockLength : List Char → Option Nat
  | [] => none
  | c :: cs =>
    if c = '*' ∧ cs.head? = some '/' then some 2 else (blockLength cs).map (· + 1)

/-- The extent of what begins with a slash, beyond the slash, if it is a comment. -/
def commentLength : List Char → Option Nat
  | '/' :: cs => some (runLength (· != '\n') cs + 1)
  | '*' :: cs => (blockLength cs).map (· + 1)
  | _ => none

/-! ## Strings and runes -/

/-- Whether `c` may follow a backslash in an interpreted string, given what comes after it. -/
def isEscape (c : Char) (cs : List Char) : Bool :=
  if c = 'x' then startsWithHex 2 cs
  else if c = 'u' then startsWithHex 4 cs
  else if c = 'U' then startsWithHex 8 cs
  else true

/-- The length of an interpreted string after its first quote, if it ends on its line. -/
def stringLength : List Char → Option Nat
  | [] => none
  | '"' :: _ => some 1
  | '\n' :: _ => none
  | '\\' :: c :: cs => if isEscape c cs then (stringLength cs).map (· + 2) else none
  | _ :: cs => (stringLength cs).map (· + 1)

/-- The length of a raw string after its first quote, if it ends. -/
def rawLength (cs : List Char) : Option Nat :=
  let n := runLength (· != '`') cs
  if n < cs.length then some (n + 1) else none

/-- The characters that stand for themselves or a control character after a backslash in a rune. -/
def isRuneEscape (c : Char) : Bool := "abfnrtv\\'\"".toList.contains c

/-- The length of what a rune literal holds between its quotes. -/
def runeBodyLength : List Char → Option Nat
  | [] => none
  | '\'' :: _ => none
  | '\\' :: c :: cs =>
    if isRuneEscape c then some 2
    else if c = 'x' ∧ startsWithHex 2 cs then some 4
    else if c = 'u' ∧ startsWithHex 4 cs then some 6
    else if c = 'U' ∧ startsWithHex 8 cs then some 10
    else if isOctal c ∧ 2 ≤ cs.length ∧ (cs.take 2).all isOctal then some 4
    else none
  | '\\' :: [] => none
  | _ :: _ => some 1

/-- The length of a rune literal after its first quote. -/
def runeLength (cs : List Char) : Option Nat :=
  match runeBodyLength cs with
  | some n => if (cs.drop n).head? = some '\'' then some (n + 1) else none
  | none => none

/-! ## Numbers

Each function gives the length of the longest text of its form at the start of the characters, and
zero if there is none. -/

/-- Digits after the first, each of which may follow a low line. -/
def moreDigits (p : Char → Bool) : List Char → Nat
  | [] => 0
  | c :: cs =>
    if p c then moreDigits p cs + 1
    else if c = '_' then
      match cs with
      | [] => 0
      | d :: ds => if p d then moreDigits p ds + 2 else 0
    else 0

/-- Digits with single low lines between them. -/
def digits (p : Char → Bool) : List Char → Nat
  | [] => 0
  | c :: cs => if p c then moreDigits p cs + 1 else 0

/-- `digits` after an optional low line. -/
def digitsAfterLine (p : Char → Bool) (cs : List Char) : Nat :=
  match cs with
  | '_' :: rest =>
    match digits p rest with
    | 0 => 0
    | n => n + 1
  | _ => digits p cs

/-- Adds the length of a first part and that of a second part that has to be there. -/
def followedBy (n : Nat) (second : List Char → Nat) (cs : List Char) : Nat :=
  if n = 0 then 0
  else
    match second (cs.drop n) with
    | 0 => 0
    | m => n + m

/-- Adds the length of a first part and that of a second part that may be missing. -/
def thenMaybe (n : Nat) (second : List Char → Nat) (cs : List Char) : Nat :=
  if n = 0 then 0 else n + second (cs.drop n)

/-- One character out of the given ones. -/
def oneOf (allowed : String) : List Char → Nat
  | [] => 0
  | c :: _ => if allowed.toList.contains c then 1 else 0

/-- A zero and one of the given letters. -/
def radixMark (letters : String) (cs : List Char) : Nat :=
  followedBy (oneOf "0" cs) (oneOf letters) cs

/-- An exponent whose mark is one of the given letters. -/
def exponent (letters : String) (cs : List Char) : Nat :=
  let mark := oneOf letters cs
  followedBy (thenMaybe mark (oneOf "+-") cs) (digits isDecimal) cs

/-- An integer without a radix mark: zero, or digits that do not begin with zero. -/
def decimalInteger (cs : List Char) : Nat :=
  if cs.head? = some '0' then 1 else digits isDecimal cs

/-- An integer in octal, with or without the letter. -/
def octalInteger (cs : List Char) : Nat :=
  let lead := oneOf "0" cs
  followedBy (thenMaybe lead (oneOf "oO") cs) (digitsAfterLine isOctal) cs

/-- A fraction in decimal, or a number with an exponent. -/
def decimalFloat (cs : List Char) : Nat :=
  let whole := digits isDecimal cs
  let pointed := followedBy whole (oneOf ".") cs
  let fraction := followedBy (oneOf "." cs) (digits isDecimal) cs
  let full := thenMaybe pointed (digits isDecimal) cs
  max (thenMaybe (max full fraction) (exponent "eE") cs)
    (followedBy whole (exponent "eE") cs)

/-- The digits of a hexadecimal fraction. -/
def hexMantissa (cs : List Char) : Nat :=
  let whole := digitsAfterLine isHex cs
  let pointed := followedBy whole (oneOf ".") cs
  let full := thenMaybe pointed (digits isHex) cs
  let fraction := followedBy (oneOf "." cs) (digits isHex) cs
  max (max whole full) fraction

/-- A number in hexadecimal with a binary exponent. -/
def hexFloat (cs : List Char) : Nat :=
  let mark := radixMark "xX" cs
  followedBy (followedBy mark hexMantissa cs) (exponent "pP") cs

/-- A number without the imaginary unit. -/
def realNumber (cs : List Char) : Nat :=
  [decimalInteger cs, octalInteger cs, decimalFloat cs, hexFloat cs,
    followedBy (radixMark "bB" cs) (digitsAfterLine isBinary) cs,
    followedBy (radixMark "xX" cs) (digitsAfterLine isHex) cs].foldl max 0

/-- A number, with the imaginary unit after it if it is there. -/
def numberLength (cs : List Char) : Nat :=
  let real := realNumber cs
  let imaginary :=
    max (followedBy real (oneOf "i") cs) (followedBy (digits isDecimal cs) (oneOf "i") cs)
  max real imaginary

/-! ## Symbols -/

/-- The symbols of more than one character, longer ones first. -/
def longSymbols : List String :=
  ["&^=", "<<=", ">>=", "...", "&&", "||", "&^", "<<", ">>", "==", "!=", "<=", ">=", "<-", "++",
    "--", "+=", "-=", "*=", "/=", "%=", "&=", "|=", "^=", ":="]

/-- The characters that are symbols by themselves. -/
def isSymbolChar (c : Char) : Bool := "()[]{}.,;:=+-*/%&|^<>!~".toList.contains c

/-- The length of the longest symbol at the start of the text, which begins with a symbol
character. -/
def symbolLength (cs : List Char) : Nat :=
  match longSymbols.find? (fun s => s.toList.isPrefixOf cs) with
  | some s => s.length
  | none => 1

/-! ## Cutting a text -/

/-- The kind of the token that begins with `c`, and how many of the characters after `c` belong to
it. -/
def extent (c : Char) (cs : List Char) : TokenKind × Nat :=
  if c = '\n' then (.newline, 0)
  else if isBlank c then (.blank, runLength isBlank cs)
  else if Text.isNameStart c then (.word, runLength Text.isNameChar cs)
  else if c = '/' ∧ (commentLength cs).isSome then (.comment, (commentLength cs).getD 0)
  else if c = '"' then
    match stringLength cs with
    | some n => (.string, n)
    | none => (.stray, 0)
  else if c = '`' then
    match rawLength cs with
    | some n => (.rawString, n)
    | none => (.stray, 0)
  else if c = '\'' then
    match runeLength cs with
    | some n => (.rune, n)
    | none => (.stray, 0)
  else if c.isDigit ∨ c = '.' ∧ cs.head?.any Char.isDigit then
    (.number, numberLength (c :: cs) - 1)
  else if isSymbolChar c then (.symbol, symbolLength (c :: cs) - 1)
  else if c = '\x00' then (.nul, 0)
  else (.stray, 0)

end Token

/-- The tokens of a text, from its first character on. -/
def tokensFrom : List Char → List Token
  | [] => []
  | c :: cs =>
    let (kind, n) := Token.extent c cs
    ⟨kind, String.ofList (c :: cs.take n)⟩ :: tokensFrom (cs.drop n)
termination_by cs => cs.length
decreasing_by simp only [List.length_drop, List.length_cons]; omega

/-- The tokens of a source text. One byte order mark at its start is a blank. -/
def tokens (source : String) : List Token :=
  match source.toList with
  | [] => []
  | c :: cs =>
    if c = Token.byteOrderMark then ⟨.blank, String.singleton c⟩ :: tokensFrom cs
    else tokensFrom (c :: cs)

end Understudy.Go
