import Understudy.Template.Value

/-!
# Operators of a template

What the operators between values give. An undefined value is no operand.
-/

set_option autoImplicit false

namespace Understudy.Template

/-- The numbers that arithmetic gives lie between these bounds. -/
def inBounds (n : Int) : Bool := -Int.pow 2 127 ≤ n && n < Int.pow 2 127

/-- A number as the result of arithmetic. -/
def arithmeticResult (n : Int) : Except Fault Value :=
  if inBounds n then .ok (.int n) else .error .invalidOperation

/-- Arithmetic on the numbers that two values count as. -/
def onNumbers (op : Int → Int → Except Fault Value) (l r : Value) : Except Fault Value :=
  match l.number?, r.number? with
  | some a, some b => op a b
  | _, _ => .error .invalidOperation

/-- The sum of two numbers, or two texts or lists one after the other. -/
def plus (l r : Value) : Except Fault Value :=
  match l, r with
  | .text s, .text t => .ok (.text (s ++ t))
  | .list vs, .list ws => .ok (.list (vs ++ ws))
  | _, _ => onNumbers (fun a b => arithmeticResult (a + b)) l r

/-- The items `n` times over. -/
def repeatedItems {α : Type} (n : Nat) (items : List α) : List α :=
  (List.replicate n items).flatten

/-- How often something is repeated: not less than zero times. -/
def repetitions (v : Value) : Except Fault Nat :=
  match v.number? with
  | some n => if 0 ≤ n then .ok n.toNat else .error .invalidOperation
  | none => .error .invalidOperation

/-- The product of two numbers, or a text or list repeated. -/
def times (l r : Value) : Except Fault Value :=
  match l, r with
  | .text s, v | v, .text s => do
    let n ← repetitions v
    return .text (String.ofList (repeatedItems n s.toList))
  | .list vs, v | v, .list vs => do
    let n ← repetitions v
    return .list (repeatedItems n vs)
  | _, _ => onNumbers (fun a b => arithmeticResult (a * b)) l r

/-- Division that leaves a remainder of at least zero. -/
def divided (l r : Value) : Except Fault Value :=
  onNumbers (fun a b => if b = 0 then .error .invalidOperation else arithmeticResult (a / b)) l r

/-- The remainder of that division. -/
def remainder (l r : Value) : Except Fault Value :=
  onNumbers (fun a b => if b = 0 then .error .invalidOperation else arithmeticResult (a % b)) l r

/-- Whether `part` stands somewhere in `whole`. -/
def contains (part : List Char) : (whole : List Char) → Bool
  | [] => part.isEmpty
  | c :: cs => part.isPrefixOf (c :: cs) || contains part cs

/-- Whether a value is among the items of a list, a part of a text, or the name of a field. -/
def memberOf (v container : Value) : Except Fault Value :=
  match container with
  | .undefined => .error .undefined
  | .absent => .ok (.bool false)
  | .text s => .ok (.bool (contains v.printed.toList s.toList))
  | .list items => .ok (.bool (items.any (fun item => item.equals v)))
  | .record fields => .ok (.bool (((Value.record fields).item? v).isSome))
  | _ => .error .invalidOperation

/-- The opposite number. -/
def opposite : Value → Except Fault Value
  | .undefined => .error .undefined
  | .int n => arithmeticResult (-n)
  | _ => .error .invalidOperation

/-- What an operator gives on two values that are defined. -/
def BinaryOp.onDefined : BinaryOp → Value → Value → Except Fault Value
  | .add, l, r => plus l r
  | .subtract, l, r => onNumbers (fun a b => arithmeticResult (a - b)) l r
  | .multiply, l, r => times l r
  | .divide, l, r => divided l r
  | .remainder, l, r => Template.remainder l r
  | .concat, l, r => .ok (.text (l.printed ++ r.printed))
  | .equal, l, r => .ok (.bool (l.equals r))
  | .notEqual, l, r => .ok (.bool (!l.equals r))
  | .less, l, r => .ok (.bool ((l.order r).isLT))
  | .lessEqual, l, r => .ok (.bool ((l.order r).isLE))
  | .greater, l, r => .ok (.bool ((l.order r).isGT))
  | .greaterEqual, l, r => .ok (.bool ((l.order r).isGE))
  | .member, l, r => memberOf l r

/-- Whether a value is undefined and says so when it is used. -/
def isStrict : Value → Bool
  | .undefined => true
  | _ => false

/-- What an operator gives. -/
def BinaryOp.run (op : BinaryOp) (l r : Value) : Except Fault Value :=
  if isStrict l || isStrict r then .error .undefined else op.onDefined l r

/-- Whether a value counts as true, if it is defined. -/
def truth (v : Value) : Except Fault Bool :=
  if isStrict v then .error .undefined else .ok v.isTrue

end Understudy.Template
