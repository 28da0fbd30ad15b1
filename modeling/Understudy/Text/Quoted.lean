import Understudy.Text.Brace
import Understudy.Text.Quoted.Table
import Understudy.Text.Ranges

/-!
# Quoted text in messages

How a text is shown between double quotes: line ends, tabs, quotes and backslashes are written as
escapes, and so is every character that cannot be told by sight.
-/

set_option autoImplicit false

namespace Understudy.Text

/-- The code of a character between braces, in lower-case hexadecimal. -/
def codeEscape (c : Char) : String :=
  "\\u" ++ braced (String.ofList (Nat.toDigits 16 c.toNat))

/-- How a character is shown. A single quote is escaped where `single` asks for it. -/
def shownChar (single : Bool) (c : Char) : String :=
  match c with
  | '\t' => "\\t"
  | '\r' => "\\r"
  | '\n' => "\\n"
  | '\x00' => "\\0"
  | '"' => "\\\""
  | '\\' => "\\\\"
  | '\'' => if single then "\\'" else "'"
  | c => if inRanges Quoted.unseen c.toNat then codeEscape c else String.singleton c

/-- The text in double quotes. A single quote is escaped where `single` asks for it. -/
def shown (single : Bool) (s : String) : String :=
  "\"" ++ String.join (s.toList.map (shownChar single)) ++ "\""

end Understudy.Text
