import Understudy.Text.Ranges

/-!
# White space, lines and trimming

* `isWhiteSpace`: the property White_Space of the Unicode character database.
* `words`: the maximal runs of other characters.
* `lines`: the text between line ends, a carriage return before a line end being part of the end.
* `trim`: the text without white space at either end.
-/

set_option autoImplicit false

namespace Understudy.Text

/-- Ranges of the property White_Space, ascending. -/
def whiteSpaceRanges : List (Nat × Nat) := [
  (0x09, 0x0d), (0x20, 0x20), (0x85, 0x85), (0xa0, 0xa0), (0x1680, 0x1680), (0x2000, 0x200a),
  (0x2028, 0x2029), (0x202f, 0x202f), (0x205f, 0x205f), (0x3000, 0x3000)]

/-- Whether the character has the property White_Space. -/
def isWhiteSpace (c : Char) : Bool := inRanges whiteSpaceRanges c.toNat

/-- Puts `c` in front of the first of the pieces, or makes it a piece if there is none. -/
def growFirst {α : Type} (c : α) : List (List α) → List (List α)
  | [] => [[c]]
  | piece :: rest => (c :: piece) :: rest

/-- The pieces between the characters that `isCut` accepts, empty ones included. -/
def splitBy {α : Type} (isCut : α → Bool) : List α → List (List α)
  | [] => [[]]
  | c :: cs => if isCut c then [] :: splitBy isCut cs else growFirst c (splitBy isCut cs)

/-- The maximal runs of characters that are not white space, in order. -/
def words (cs : List Char) : List (List Char) :=
  (splitBy isWhiteSpace cs).filter (fun piece => !piece.isEmpty)

/-- The piece without a carriage return at its end. -/
def dropReturn (line : List Char) : List Char :=
  if line.getLast? = some '\r' then line.dropLast else line

/-- The lines of a text: what stands before each line end, and what stands after the last one
unless that is empty. A carriage return right before a line end belongs to it. -/
def lines (cs : List Char) : List (List Char) :=
  let pieces := splitBy (· == '\n') cs
  let ended := pieces.dropLast.map dropReturn
  match pieces.getLast? with
  | some (c :: rest) => ended ++ [c :: rest]
  | _ => ended

/-- The text without white space at its ends. -/
def trim (cs : List Char) : List Char :=
  ((cs.dropWhile isWhiteSpace).reverse.dropWhile isWhiteSpace).reverse

end Understudy.Text
