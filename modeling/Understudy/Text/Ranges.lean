/-!
# Sets of characters given by ranges

A character property of the Unicode character database is a short list of closed ranges of code
points in ascending order. Membership stops at the first range that begins above the code point.
-/

set_option autoImplicit false

namespace Understudy.Text

/-- Whether `n` lies in one of the ascending ranges. -/
def inRanges : List (Nat × Nat) → Nat → Bool
  | [], _ => false
  | (lo, hi) :: rest, n => if n < lo then false else decide (n ≤ hi) || inRanges rest n

@[simp] theorem inRanges_nil (n : Nat) : inRanges [] n = false := rfl

theorem inRanges_cons (lo hi n : Nat) (rest : List (Nat × Nat)) :
    inRanges ((lo, hi) :: rest) n =
      (if n < lo then false else decide (n ≤ hi) || inRanges rest n) := rfl

end Understudy.Text
