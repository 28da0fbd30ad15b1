import Understudy.Text.LetterCase.Table
import Understudy.Text.Ranges

/-!
# Letter case

Case tests and case mappings of single characters, after the Unicode character database, with no
regard to locale or to the neighbouring characters. One character may map to several.

* `isUpper`, `isLower`: the properties Uppercase and Lowercase.
* `lower`, `upper`: the full mappings, as the list of characters that stand for the given one.
-/

set_option autoImplicit false

namespace Understudy.Text

/-- Whether the character has the property Uppercase. -/
def isUpper (c : Char) : Bool := inRanges LetterCase.uppercase c.toNat

/-- Whether the character has the property Lowercase. -/
def isLower (c : Char) : Bool := inRanges LetterCase.lowercase c.toNat

namespace LetterCase

/-- The image of `n` under the first run that holds it. Runs ascend by first character, so the
search stops at one that begins above `n`. -/
def image : List Run → Nat → Option Nat
  | [], _ => none
  | r :: rest, n =>
    if n < r.first then none
    else if n ≤ r.last ∧ (n - r.first) % r.stride = 0 then some (r.target + (n - r.first))
    else image rest n

/-- The characters that stand for `c`: its sequence if it has one, its image if it lies in a run,
and itself otherwise. -/
def mapChar (sequences : List (Nat × List Nat)) (runs : List Run) (c : Char) : List Char :=
  match sequences.lookup c.toNat with
  | some codes => codes.map Char.ofNat
  | none =>
    match image runs c.toNat with
    | some n => [Char.ofNat n]
    | none => [c]

end LetterCase

/-- The full lower-case mapping of one character. -/
def lower (c : Char) : List Char :=
  LetterCase.mapChar LetterCase.lowerSequences LetterCase.lowerRuns c

/-- The full upper-case mapping of one character. -/
def upper (c : Char) : List Char :=
  LetterCase.mapChar LetterCase.upperSequences LetterCase.upperRuns c

end Understudy.Text
