/-!
# Text from arbitrary bytes

Bytes that are not UTF-8 are read with the replacement character in place of every part that
cannot be read: the longest start of a sequence that the following byte breaks off, or else a
single byte.
-/

set_option autoImplicit false

namespace Understudy.Text

/-- What the first byte of a sequence says: how many bytes follow, and between which bounds the
first of them lies. -/
def leadByte (b : UInt8) : Option (Nat × UInt8 × UInt8) :=
  if b < 0x80 then some (0, 0, 0)
  else if 0xc2 ≤ b ∧ b ≤ 0xdf then some (1, 0x80, 0xbf)
  else if b = 0xe0 then some (2, 0xa0, 0xbf)
  else if b = 0xed then some (2, 0x80, 0x9f)
  else if 0xe1 ≤ b ∧ b ≤ 0xef then some (2, 0x80, 0xbf)
  else if b = 0xf0 then some (3, 0x90, 0xbf)
  else if 0xf1 ≤ b ∧ b ≤ 0xf3 then some (3, 0x80, 0xbf)
  else if b = 0xf4 then some (3, 0x80, 0x8f)
  else none

/-- The bits that a first byte contributes, when `n` bytes follow. -/
def leadBits (n : Nat) (b : UInt8) : Nat :=
  match n with
  | 0 => b.toNat
  | 1 => b.toNat % 32
  | 2 => b.toNat % 16
  | _ => b.toNat % 8

/-- Reads `n` bytes of a sequence onto `code`. The first lies between the bounds. Gives the code,
if the sequence is complete, and the bytes after it. -/
def readFollowing : (n : Nat) → (low high : UInt8) → (code : Nat) → List UInt8 →
    Option Nat × List UInt8
  | 0, _, _, code, bs => (some code, bs)
  | _ + 1, _, _, _, [] => (none, [])
  | n + 1, low, high, code, b :: bs =>
    if low ≤ b ∧ b ≤ high then readFollowing n 0x80 0xbf (code * 64 + b.toNat % 64) bs
    else (none, b :: bs)

/-- A part of the bytes: a character, or bytes that are part of none. -/
inductive Part where
  | char (c : Char)
  | broken (bytes : List UInt8)

/-- The parts of the bytes, in at most `fuel` steps. -/
def parts : (fuel : Nat) → List UInt8 → List Part
  | 0, _ => []
  | _, [] => []
  | fuel + 1, b :: bs =>
    match leadByte b with
    | none => .broken [b] :: parts fuel bs
    | some (n, low, high) =>
      match readFollowing n low high (leadBits n b) bs with
      | (some code, rest) => .char (Char.ofNat code) :: parts fuel rest
      | (none, rest) => .broken (b :: bs.take (bs.length - rest.length)) :: parts fuel rest

/-- The character that stands for what cannot be read. -/
def replacement : Char := Char.ofNat 0xfffd

/-- The character that a part is read as. -/
def Part.lossyChar : Part → Char
  | char c => c
  | broken _ => replacement

/-- The text that the bytes are read as. -/
def lossy (bytes : List UInt8) : List Char := (parts bytes.length bytes).map Part.lossyChar

end Understudy.Text
