/-!
# Patterns

A pattern describes a part of a text. It is tried at every place of the text, from the first one
on, and at each place its ways are tried in order: a repetition takes as many turns as it can, and
gives them back one by one if what follows it does not match.

* `Pattern.ways` are all ways in which a pattern matches from a place on, in order.
* `Pattern.captures` is what the groups of a pattern hold after its first match.
-/

set_option autoImplicit false

namespace Understudy.Text

/-- A class of characters: those in the ranges, or all others. -/
structure CharClass where
  ranges : List (Char × Char)
  negated : Bool := false
deriving DecidableEq

/-- Whether the character is in the class. -/
def CharClass.contains (k : CharClass) (c : Char) : Bool :=
  (k.ranges.any fun r => decide (r.1 ≤ c) && decide (c ≤ r.2)) != k.negated

/-- A pattern. -/
inductive Pattern where
  /-- The beginning of the text, `^`. -/
  | start
  /-- The end of the text, `$`. -/
  | stop
  /-- One character of a class, `[…]`. -/
  | one (k : CharClass)
  /-- Any number of turns, as many as possible, `p*`. -/
  | many (p : Pattern)
  | seq (first second : Pattern)
  /-- A group, `(p)`, whose match is kept under a number. -/
  | group (number : Nat) (p : Pattern)
deriving DecidableEq

/-- A place in a text: the characters before it, the last one first, the characters after it, and
what the groups hold so far. -/
structure Cursor where
  before : List Char
  after : List Char
  groups : List (Nat × List Char)
deriving DecidableEq

namespace Cursor

/-- What stands between a place and a later one. -/
def upTo (p q : Cursor) : List Char := p.after.take (p.after.length - q.after.length)

/-- The later place, with what stands between the two kept under a number. -/
def keep (number : Nat) (p q : Cursor) : Cursor :=
  { q with groups := (number, p.upTo q) :: q.groups }

end Cursor

namespace Pattern

/-- The ways to take at most `turns` turns, the longest ones first. A turn that does not move on is
not taken. -/
def turns (one : Cursor → List Cursor) : (turns : Nat) → Cursor → List Cursor
  | 0, p => [p]
  | n + 1, p =>
    ((one p).filter fun q => q.after.length < p.after.length).flatMap (turns one n) ++ [p]

/-- The places to which the pattern leads from a place, in the order in which they are tried. -/
def ways : Pattern → Cursor → List Cursor
  | start, p => if p.before = [] then [p] else []
  | stop, p => if p.after = [] then [p] else []
  | one k, p =>
    match p.after with
    | [] => []
    | c :: cs => if k.contains c then [{ p with before := c :: p.before, after := cs }] else []
  | many r, p => turns r.ways p.after.length p
  | seq first second, p => (first.ways p).flatMap second.ways
  | group number r, p => (r.ways p).map (p.keep number)

/-- The place to which the first match leads, at this place or one behind it. -/
def search (r : Pattern) : (before after : List Char) → Option Cursor
  | before, [] => (r.ways ⟨before, [], []⟩).head?
  | before, c :: cs =>
    match (r.ways ⟨before, c :: cs, []⟩).head? with
    | some p => some p
    | none => search r (c :: before) cs

/-- What the groups hold after the first match in the text. -/
def captures (r : Pattern) (text : List Char) : Option (List (Nat × List Char)) :=
  (r.search [] text).map Cursor.groups

/-- What a group holds. -/
def groupText (groups : List (Nat × List Char)) (number : Nat) : List Char :=
  (groups.lookup number).getD []

end Pattern

end Understudy.Text
