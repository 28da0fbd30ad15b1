import Understudy.Text.LetterCase
import Understudy.Text.LetterCase.Neighbours

/-!
# Text in lower case

The lower case of a whole text is that of its characters, one by one, but for the capital sigma:
at the end of a word it has a form of its own. A sigma ends a word if a cased letter stands before
it and none after it, where punctuation and marks inside a word are passed over.
-/

set_option autoImplicit false

namespace Understudy.Text

/-- Whether the character is a letter with case. -/
def isCased (c : Char) : Bool := isUpper c || isLower c || inRanges LetterCase.titlecase c.toNat

/-- Whether the character is passed over in the search for the neighbours of a letter. -/
def isPassedOver (c : Char) : Bool := inRanges LetterCase.ignorable c.toNat

/-- Whether the first of the characters that is not passed over is a letter with case. -/
def startsCased (cs : List Char) : Bool := (cs.dropWhile isPassedOver).head?.any isCased

/-- The lower case of the characters after `before`, whose nearest character comes first. -/
def lowercaseAfter : (before : List Char) → List Char → List Char
  | _, [] => []
  | before, c :: cs =>
    (if c = 'Σ' ∧ startsCased before ∧ ¬ startsCased cs then ['ς'] else lower c) ++
      lowercaseAfter (c :: before) cs

/-- The text in lower case. -/
def lowercase (s : String) : String := String.ofList (lowercaseAfter [] s.toList)

/-- The text in upper case. -/
def uppercase (s : String) : String := String.ofList (s.toList.flatMap upper)

end Understudy.Text
