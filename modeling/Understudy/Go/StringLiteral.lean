/-!
# Go string literals

The meaning of a quoted string of Go source. A raw literal stands between backquotes and means its
body without carriage returns. An interpreted literal stands between double quotes; its body is a
sequence of elements, each of which denotes bytes, and the bytes together have to be UTF-8.

* `element` reads the first element of a body.
* `unescape` reads a whole body.
* `unquote` reads a literal.
-/

set_option autoImplicit false

namespace Understudy.Go

/-- Why a text is not a string literal with a meaning. -/
inductive LiteralError where
  | notQuoted
  | unterminated
  | strayQuote
  | lineBreak
  | badEscape (escape : Char)
  | badCodePoint (code : UInt32)
  | notUtf8
deriving DecidableEq

/-- The number in hexadecimal, in lower case. -/
def hexText (n : Nat) : String := String.ofList (Nat.toDigits 16 n)

/-- The wording of each cause. -/
def LiteralError.message : LiteralError → String
  | .notQuoted => "not a quoted string"
  | .unterminated => "unterminated string literal"
  | .strayQuote => "unescaped quote inside literal"
  | .lineBreak => "newline inside interpreted literal"
  | .badEscape c => "invalid escape sequence \\" ++ String.singleton c
  | .badCodePoint n => "invalid code point 0x" ++ hexText n.toNat
  | .notUtf8 => "literal is not valid UTF-8"

namespace StringLiteral

/-- The value of a hexadecimal digit, in 32 bits. -/
def hexValue (c : Char) : Option UInt32 :=
  if '0' ≤ c ∧ c ≤ '9' then some (c.val - 48)
  else if 'a' ≤ c ∧ c ≤ 'f' then some (c.val - 87)
  else if 'A' ≤ c ∧ c ≤ 'F' then some (c.val - 55)
  else none

/-- The value of a digit of the given radix, at most 16. -/
def digitValue (radix : UInt32) (c : Char) : Option UInt32 :=
  match hexValue c with
  | some d => if d < radix then some d else none
  | none => none

/-- Reads `count` digits of the given radix onto `value`, all in 32 bits, and returns what follows
them. -/
def readDigits (radix : UInt32) : (count : Nat) → (value : UInt32) → List Char →
    Option (UInt32 × List Char)
  | 0, value, cs => some (value, cs)
  | _ + 1, _, [] => none
  | count + 1, value, c :: cs =>
    match digitValue radix c with
    | some d => readDigits radix count (value * radix + d) cs
    | none => none

/-- The character with the given code point, if the code point is a scalar value. -/
def scalar? (code : UInt32) : Option Char :=
  if h : code.isValidChar then some ⟨code, h⟩ else none

/-- The byte that a single-character escape denotes. -/
def simpleEscape : Char → Option UInt8
  | 'a' => some 0x07
  | 'b' => some 0x08
  | 'f' => some 0x0c
  | 'n' => some 0x0a
  | 'r' => some 0x0d
  | 't' => some 0x09
  | 'v' => some 0x0b
  | '\\' => some 0x5c
  | '"' => some 0x22
  | _ => none

/-- Three octal digits, the first of which is `first`: a byte, if the value fits in one. -/
def octalEscape (first : Char) (high : UInt32) (cs : List Char) :
    Except LiteralError (List UInt8 × List Char) :=
  match readDigits 8 2 0 cs with
  | none => .error (.badEscape first)
  | some (low, rest) =>
    let value := high * 64 + low
    if value < 256 then .ok ([value.toUInt8], rest) else .error (.badEscape first)

/-- Two hexadecimal digits: a byte. -/
def hexEscape (cs : List Char) : Except LiteralError (List UInt8 × List Char) :=
  match readDigits 16 2 0 cs with
  | none => .error (.badEscape 'x')
  | some (value, rest) => .ok ([value.toUInt8], rest)

/-- `count` hexadecimal digits after the mark `mark`: the encoding of a character. -/
def unicodeEscape (mark : Char) (count : Nat) (cs : List Char) :
    Except LiteralError (List UInt8 × List Char) :=
  match readDigits 16 count 0 cs with
  | none => .error (.badEscape mark)
  | some (code, rest) =>
    match scalar? code with
    | some c => .ok (String.utf8EncodeChar c, rest)
    | none => .error (.badCodePoint code)

/-- What follows a backslash: the bytes it denotes and the rest of the body. -/
def escapeSequence : List Char → Except LiteralError (List UInt8 × List Char)
  | [] => .error .unterminated
  | c :: cs =>
    match simpleEscape c with
    | some byte => .ok ([byte], cs)
    | none =>
      if c = 'x' then hexEscape cs
      else if c = 'u' then unicodeEscape 'u' 4 cs
      else if c = 'U' then unicodeEscape 'U' 8 cs
      else
        match digitValue 8 c with
        | some high => octalEscape c high cs
        | none => .error (.badEscape c)

/-- The first element of a body that starts with `c`: the bytes it denotes and the rest. -/
def element (c : Char) (cs : List Char) : Except LiteralError (List UInt8 × List Char) :=
  if c = '"' then .error .strayQuote
  else if c = '\n' then .error .lineBreak
  else if c = '\\' then escapeSequence cs
  else .ok (String.utf8EncodeChar c, cs)

/-! ## Reading makes progress -/

theorem readDigits_length {radix : UInt32} {count : Nat} {value code : UInt32}
    {cs rest : List Char} (h : readDigits radix count value cs = some (code, rest)) :
    cs.length = count + rest.length := by
  induction count generalizing value cs with
  | zero => simp only [readDigits, Option.some.injEq, Prod.mk.injEq] at h; simp [h.2]
  | succ n ih =>
    cases cs with
    | nil => simp [readDigits] at h
    | cons c cs =>
      simp only [readDigits] at h
      split at h
      · have := ih h; simp only [List.length_cons]; omega
      · exact absurd h (by simp)

theorem octalEscape_length {first : Char} {high : UInt32} {cs rest : List Char}
    {bytes : List UInt8} (h : octalEscape first high cs = .ok (bytes, rest)) :
    rest.length ≤ cs.length := by
  simp only [octalEscape] at h
  split at h
  · cases h
  · next hd =>
    have := readDigits_length hd
    split at h
    · cases h; omega
    · cases h

theorem hexEscape_length {cs rest : List Char} {bytes : List UInt8}
    (h : hexEscape cs = .ok (bytes, rest)) : rest.length ≤ cs.length := by
  simp only [hexEscape] at h
  split at h
  · cases h
  · next hd =>
    have := readDigits_length hd
    cases h; omega

theorem unicodeEscape_length {mark : Char} {count : Nat} {cs rest : List Char}
    {bytes : List UInt8} (h : unicodeEscape mark count cs = .ok (bytes, rest)) :
    rest.length ≤ cs.length := by
  simp only [unicodeEscape] at h
  split at h
  · cases h
  · next hd =>
    have := readDigits_length hd
    split at h
    · cases h; omega
    · cases h

theorem escapeSequence_length {cs rest : List Char} {bytes : List UInt8}
    (h : escapeSequence cs = .ok (bytes, rest)) : rest.length < cs.length := by
  cases cs with
  | nil => simp [escapeSequence] at h
  | cons c cs =>
    rw [List.length_cons]
    apply Nat.lt_succ_of_le
    simp only [escapeSequence] at h
    split at h
    · cases h; exact Nat.le_refl _
    · split at h
      · exact hexEscape_length h
      · split at h
        · exact unicodeEscape_length h
        · split at h
          · exact unicodeEscape_length h
          · split at h
            · exact octalEscape_length h
            · cases h

theorem element_length {c : Char} {cs rest : List Char} {bytes : List UInt8}
    (h : element c cs = .ok (bytes, rest)) : rest.length ≤ cs.length := by
  simp only [element] at h
  split at h
  · cases h
  · split at h
    · cases h
    · split at h
      · exact Nat.le_of_lt (escapeSequence_length h)
      · cases h; exact Nat.le_refl _

/-- The bytes that a body denotes, element by element. -/
def unescape : List Char → Except LiteralError (List UInt8)
  | [] => .ok []
  | c :: cs =>
    match _read : element c cs with
    | .error e => .error e
    | .ok (bytes, rest) =>
      match unescape rest with
      | .error e => .error e
      | .ok more => .ok (bytes ++ more)
termination_by cs => cs.length
decreasing_by
  have := element_length _read
  simp only [List.length_cons]; omega

/-- The meaning of a raw literal's body. -/
def rawValue (body : List Char) : Except LiteralError String :=
  if body.contains '`' then .error .strayQuote
  else .ok (String.ofList (body.filter (· != '\r')))

/-- The meaning of an interpreted literal's body. -/
def interpretedValue (body : List Char) : Except LiteralError String :=
  match unescape body with
  | .error e => .error e
  | .ok bytes =>
    match String.fromUTF8? bytes.toByteArray with
    | some s => .ok s
    | none => .error .notUtf8

end StringLiteral

open StringLiteral in
/-- The string that a literal means. -/
def unquote (literal : String) : Except LiteralError String :=
  match literal.toList with
  | [] => .error .notQuoted
  | quote :: rest =>
    if quote = '"' ∨ quote = '`' then
      if rest.getLast? = some quote then
        if quote = '`' then rawValue rest.dropLast else interpretedValue rest.dropLast
      else .error .unterminated
    else .error .notQuoted

end Understudy.Go
