import Understudy.Text.LetterCase
import Understudy.Text.WhiteSpace

/-!
# Spelling of names

The conversions between the ways a name is written: a first letter in another case, words joined
by low lines, words joined by capitals, and names without a given start or end.
-/

set_option autoImplicit false

namespace Understudy.Naming

open Text

/-- The text with the first character in lower case. -/
def lowerFirst (s : String) : String :=
  match s.toList with
  | [] => ""
  | c :: cs => String.ofList (lower c ++ cs)

/-- The characters with the first one in upper case. -/
def upperFirstChars : List Char → List Char
  | [] => []
  | c :: cs => upper c ++ cs

/-- The text with the first character in upper case. -/
def upperFirst (s : String) : String := String.ofList (upperFirstChars s.toList)

/-- The characters that separate words: low line, hyphen and space. -/
def isSeparator (c : Char) : Bool := c == '_' || c == '-' || c == ' '

/-! ## Words joined by low lines -/

/-- Whether a low line may follow text whose last character is `last`: there is some text, and it
does not end in a low line already. -/
def allowsBreak (last : Option Char) : Bool :=
  match last with
  | none => false
  | some c => c != '_'

/-- Whether the upper-case character `c` begins a word: it follows a lower-case character or a
digit, or it ends a run of capitals, being followed by a lower-case character. -/
def beginsWord (prev : Option Char) (c : Char) (next : Option Char) : Bool :=
  match prev with
  | none => false
  | some p =>
    isUpper c && (isLower p || p.isDigit || (isUpper p && next.any isLower))

/-- Writes `cs` in snake case. `last` is the last character written so far and `prev` the last
character read. -/
def snakeFrom (last prev : Option Char) : List Char → List Char
  | [] => []
  | c :: cs =>
    if isSeparator c then
      if allowsBreak last then '_' :: snakeFrom (some '_') (some c) cs
      else snakeFrom last (some c) cs
    else
      let mark := if beginsWord prev c cs.head? && allowsBreak last then ['_'] else []
      mark ++ lower c ++ snakeFrom (lower c).getLast? (some c) cs

/-- The text in snake case: `GetUserByID` becomes `get_user_by_id`. -/
def snakeCase (s : String) : String := String.ofList (snakeFrom none none s.toList)

/-! ## Words joined by capitals -/

/-- The text in camel case: `get_user-by id` becomes `GetUserById`. Within a word only the first
character changes. -/
def camelCase (s : String) : String :=
  String.ofList ((splitBy isSeparator s.toList).flatMap upperFirstChars)

/-! ## Removing a start or an end -/

/-- The characters without `start` at their beginning, or all of them if they begin otherwise. -/
def removeStartChars (start cs : List Char) : List Char :=
  if start.isPrefixOf cs then cs.drop start.length else cs

/-- The text without `start` at its beginning, or the whole text if it begins otherwise. -/
def removeStart (start s : String) : String :=
  String.ofList (removeStartChars start.toList s.toList)

/-- The text without `stop` at its end, or the whole text if it ends otherwise. -/
def removeEnd (stop s : String) : String :=
  String.ofList (removeStartChars stop.toList.reverse s.toList.reverse).reverse

end Understudy.Naming
