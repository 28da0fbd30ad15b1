import Understudy.Text.Lossy
import Understudy.Text.Quoted

/-!
# Texts of the operating system

The names and paths of files are bytes. Mostly they are a text in UTF-8, but nothing asks for it.

* `OsText.toStr?` is the text, if the bytes are one.
* `OsText.lossy` is how the bytes are written in a text.
* `OsText.shown` is how they are shown between quotes.
-/

set_option autoImplicit false

namespace Understudy.Files

open Text

/-- A name or a path: bytes that need not be UTF-8. -/
abbrev OsText := List UInt8

namespace OsText

/-- The bytes of a text. -/
def ofString (s : String) : OsText := s.toList.flatMap String.utf8EncodeChar

instance : Coe String OsText := ⟨ofString⟩

/-- The text that the bytes are, if they are UTF-8. -/
def toStr? (t : OsText) : Option String := String.fromUTF8? t.toByteArray

/-- The bytes as a text. Only what is not UTF-8 is replaced. -/
def lossy (t : OsText) : String :=
  match toStr? t with
  | some s => s
  | none => String.ofList (Text.lossy t)

/-- A byte in upper-case hexadecimal. -/
def byteEscape (b : UInt8) : String :=
  "\\x" ++ String.ofList ((Nat.toDigits 16 (b.toNat / 16) ++ Nat.toDigits 16 (b.toNat % 16)).map
    Char.toUpper)

/-- How a part of the bytes is shown. -/
def shownPart : Part → String
  | .char c => shownChar true c
  | .broken bytes => String.join (bytes.map byteEscape)

/-- The bytes in double quotes. -/
def shown (t : OsText) : String :=
  "\"" ++ String.join ((parts t.length t).map shownPart) ++ "\""

end OsText

end Understudy.Files
