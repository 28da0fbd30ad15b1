import Understudy.Notice
import Understudy.Text.WhiteSpace

/-!
# Which notices are logged

A filter is a list of directives with commas between them. A directive is a level, a target, or a
target and a level. A notice is logged if the directive with the longest target that its own target
begins with admits its level.
-/

set_option autoImplicit false

namespace Understudy.CommandLine

open Text

/-- Admits notices of a target up to a level; zero admits none. -/
structure Directive where
  target : String
  rank : Nat
deriving DecidableEq, Repr

/-- The rank that a word names. -/
def rankOf? (word : String) : Option Nat :=
  match String.ofList (word.toList.map Char.toLower) with
  | "off" | "0" => some 0
  | "error" | "1" => some 1
  | "warn" | "2" => some 2
  | "info" | "3" => some 3
  | "debug" | "4" => some 4
  | "trace" | "5" => some 5
  | _ => none

/-- A character of a target. -/
def isTargetChar (c : Char) : Bool := c.isAlphanum || c == '_' || c == ':' || c == '-'

/-- Reads a directive. -/
def directive? (text : String) : Option Directive :=
  match rankOf? text with
  | some rank => some ⟨"", rank⟩
  | none =>
    match (splitBy (· == '=') text.toList).map String.ofList with
    | [target] => if target.toList.all isTargetChar then some ⟨target, 5⟩ else none
    | [target, level] =>
      if target.toList.all isTargetChar then
        if level = "" then some ⟨target, 5⟩ else (rankOf? level).map (fun rank => ⟨target, rank⟩)
      else none
    | _ => none

/-- Reads a filter. Without any directive, errors are logged. -/
def directives? (text : String) : Option (List Directive) :=
  let parts := ((splitBy (· == ',') text.toList).map (fun p => String.ofList (trim p))).filter
    (fun p => p != "")
  if parts.isEmpty then some [⟨"", 1⟩] else parts.mapM directive?

/-- The filter that a variable asks for: warnings, if it is not set or not a filter. -/
def logFilter (asked : Option String) : List Directive :=
  (asked.bind directives?).getD [⟨"", 2⟩]

/-- The directive with the longest target that the given one begins with; of equal ones the last. -/
def chosen (target : String) (ds : List Directive) : Option Directive :=
  ds.foldl (fun best d =>
    if d.target.toList.isPrefixOf target.toList then
      match best with
      | some b => if b.target.length ≤ d.target.length then some d else best
      | none => some d
    else best) none

/-- Whether a notice is logged. -/
def admits (ds : List Directive) (n : Notice) : Bool :=
  (chosen n.target ds).any (fun d => n.level.rank ≤ d.rank)

end Understudy.CommandLine
