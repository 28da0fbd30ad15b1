import Understudy.Template.Error
import Understudy.Template.Expr
import Understudy.Text.Brace
import Understudy.Text.Quoted

/-!
# Values of a template

What expressions of a template evaluate to, how values are printed and compared, and how their
parts are reached.

* `Value.printed` is what is printed for a value.
* `Value.equals` and `Value.order` compare values.
* `Value.attr`, `Value.item` and `Value.slice` reach parts.
-/

set_option autoImplicit false

namespace Understudy.Template

/-- A value. -/
inductive Value where
  /-- What a name that is not bound, or a part that is not there, stands for. -/
  | undefined
  /-- What a conditional expression without an alternative gives; it prints as nothing. -/
  | absent
  | null
  | bool (value : Bool)
  | int (value : Int)
  | text (value : String)
  | list (items : List Value)
  /-- Named values, in order. -/
  | record (fields : List (String × Value))
  /-- A macro: its parameters, the defaults of the last ones, and its body. -/
  | macroDef (name : String) (params : List String) (defaults : List Expr) (body : List Stmt)
  /-- The function that counts. -/
  | range

namespace Value

/-! ## Printing -/

/-- The items with commas between them. -/
def commaed : List String → String
  | [] => ""
  | [s] => s
  | s :: rest => s ++ ", " ++ commaed rest

mutual

/-- What is printed for a value inside a list or a record. -/
def inner : Value → String
  | undefined => "undefined"
  | absent => "undefined"
  | null => "None"
  | bool b => if b then "True" else "False"
  | int n => toString n
  | text s => Text.shown false s
  | list items => "[" ++ commaed (innerAll items) ++ "]"
  | record fields => Text.braced (commaed (innerFields fields))
  | macroDef name _ _ _ => "<macro " ++ name ++ ">"
  | range => "<function range>"

def innerAll : List Value → List String
  | [] => []
  | v :: vs => v.inner :: innerAll vs

def innerFields : List (String × Value) → List String
  | [] => []
  | (name, v) :: fields => (Text.shown false name ++ ": " ++ v.inner) :: innerFields fields

end

/-- What is printed for a value. -/
def printed : Value → String
  | undefined => ""
  | absent => ""
  | text s => s
  | v => v.inner

/-! ## Kinds and truth -/

def isUndefined : Value → Bool
  | undefined | absent => true
  | _ => false

/-- Whether the value counts as true. -/
def isTrue : Value → Bool
  | undefined | absent | null => false
  | bool b => b
  | int n => n != 0
  | text s => s != ""
  | list items => !items.isEmpty
  | record fields => !fields.isEmpty
  | macroDef _ _ _ _ | range => true

/-- The number that a value counts as, if it is a number or a truth value. -/
def number? : Value → Option Int
  | bool b => some (if b then 1 else 0)
  | int n => some n
  | _ => none

/-- The place of a value's kind in the order of values. -/
def rank : Value → Nat
  | undefined | absent => 0
  | null => 1
  | bool _ => 2
  | int _ => 3
  | text _ => 4
  | list _ => 5
  | record _ => 6
  | macroDef _ _ _ _ | range => 7

/-! ## Comparing -/

/-- The field of the given name. -/
def field? (name : String) : List (String × Value) → Option Value
  | [] => none
  | (n, v) :: fields => if n = name then some v else field? name fields

mutual

/-- Whether two values are equal. A truth value equals the number it counts as. -/
def equals : Value → Value → Bool
  | undefined, w => w.isUndefined
  | absent, w => w.isUndefined
  | null, null => true
  | bool b, w => number? (bool b) == w.number?
  | int n, w => number? (int n) == w.number?
  | text s, text t => s == t
  | list vs, list ws => equalsAll vs ws
  | record fs, record gs => fs.length == gs.length && fieldsIn fs gs
  | macroDef name params _ _, macroDef name2 params2 _ _ => name == name2 && params == params2
  | range, range => true
  | _, _ => false

def equalsAll : List Value → List Value → Bool
  | [], [] => true
  | v :: vs, w :: ws => v.equals w && equalsAll vs ws
  | _, _ => false

/-- Whether each of the fields has an equal one among `gs`. -/
def fieldsIn : List (String × Value) → List (String × Value) → Bool
  | [], _ => true
  | (name, v) :: fs, gs => (field? name gs).any (fun w => v.equals w) && fieldsIn fs gs

end

mutual

/-- The order of two values: by kind, then within the kind. -/
def order : Value → Value → Ordering
  | text s, text t => compare s t
  | list vs, list ws => orderAll vs ws
  | record fs, record gs => orderFields fs gs
  | v, w =>
    match compare v.rank w.rank with
    | .eq =>
      match v.number?, w.number? with
      | some a, some b => compare a b
      | _, _ => .eq
    | o => o

def orderAll : List Value → List Value → Ordering
  | [], [] => .eq
  | [], _ :: _ => .lt
  | _ :: _, [] => .gt
  | v :: vs, w :: ws => (v.order w).then (orderAll vs ws)

def orderFields : List (String × Value) → List (String × Value) → Ordering
  | [], [] => .eq
  | [], _ :: _ => .lt
  | _ :: _, [] => .gt
  | (a, v) :: fs, (b, w) :: gs => ((compare a b).then (v.order w)).then (orderFields fs gs)

end

/-! ## Parts -/

/-- The named part of a value, if there is one. -/
def attr? (name : String) : Value → Option Value
  | record fields => field? name fields
  | _ => none

/-- The item of a list at a place, which counts from the end if it is negative. -/
def nth? {α : Type} (items : List α) (i : Int) : Option α :=
  if 0 ≤ i then items[i.toNat]? else if 0 ≤ items.length + i then items[(items.length + i).toNat]?
  else none

/-- A character as a value. -/
def ofChar (c : Char) : Value := text (String.singleton c)

/-- The part of a value that an index picks, if there is one. -/
def item? (v index : Value) : Option Value :=
  match v, index with
  | record fields, text name => field? name fields
  | list items, i => i.number?.bind (nth? items)
  | text s, i => (i.number?.bind (nth? s.toList)).map ofChar
  | _, _ => none

/-- What a missing part of a value comes to. -/
def missingOf (v : Value) : Except Fault Value :=
  if v.isUndefined then .error .undefined else .ok undefined

/-- The named part of a value. -/
def attr (v : Value) (name : String) : Except Fault Value :=
  match v.attr? name with
  | some w => .ok w
  | none => v.missingOf

/-- The part of a value that an index picks. -/
def item (v index : Value) : Except Fault Value :=
  match v.item? index with
  | some w => .ok w
  | none => v.missingOf

/-! ## Slices -/

/-- A bound of a slice: a number, or nothing. -/
def bound : Value → Except Fault (Option Int)
  | null => .ok none
  | v =>
    match v.number? with
    | some n => .ok (some n)
    | none => .error .invalidOperation

/-- A place counted from the start, where a negative one counts from the end. A place before the
start lies beyond the end. -/
def placeOf (size : Nat) (i : Int) : Nat :=
  if 0 ≤ i then i.toNat else if 0 ≤ size + i then (size + i).toNat else Nat.pow 2 64 - (-(size + i)).toNat

/-- Every `step`th of the items. -/
def every {α : Type} (step : Nat) : (fuel : Nat) → List α → List α
  | 0, _ => []
  | _, [] => []
  | fuel + 1, x :: xs => x :: every step fuel (xs.drop (step - 1))

/-- The items from `start` to before `stop`, every `step`th. -/
def sliceForward {α : Type} (items : List α) (start stop : Option Int) (step : Nat) : List α :=
  let first := placeOf items.length (start.getD 0)
  let last := (stop.map (placeOf items.length)).getD items.length
  every step items.length ((items.drop first).take (last - first))

/-- The items from `start` down to after `stop`, every `step`th. -/
def sliceBackward {α : Type} (items : List α) (start stop : Option Int) (step : Nat) : List α :=
  let size : Int := items.length
  let clamp := fun (i : Int) => max (-1) (min (if i < 0 then size + i else i) (size - 1))
  let first := (start.map clamp).getD (size - 1)
  let last := (stop.map clamp).getD (-1)
  let chosen := (items.take (first + 1).toNat).drop (last + 1).toNat
  every step items.length chosen.reverse

/-- The items that a slice picks. -/
def slicedItems {α : Type} (items : List α) (start stop : Option Int) (step : Int) : List α :=
  if 0 < step then sliceForward items start stop step.toNat
  else sliceBackward items start stop (-step).toNat

/-- The part of a text or a list between bounds. -/
def slice (v start stop step : Value) : Except Fault Value := do
  let start ← bound start
  let stop ← bound stop
  let step ← bound step
  let step := step.getD 1
  if step = 0 then .error .invalidOperation
  else
    match v with
    | undefined => .error .undefined
    | absent => .error .undefined
    | null => .ok (list [])
    | text s => .ok (text (String.ofList (slicedItems s.toList start stop step)))
    | list items => .ok (list (slicedItems items start stop step))
    | _ => .error .invalidOperation

/-! ## Items -/

/-- The items of a value that can be gone through: characters, items or names. -/
def items : Value → Except Fault (List Value)
  | undefined => .error .undefined
  | absent => .ok []
  | null => .ok []
  | text s => .ok (s.toList.map ofChar)
  | list vs => .ok vs
  | record fields => .ok (fields.map (fun f => text f.1))
  | _ => .error .invalidOperation

end Value

end Understudy.Template
