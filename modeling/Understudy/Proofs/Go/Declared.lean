import Mathlib.Data.List.Forall2
import Understudy.Proofs.Go.Qualification

/-!
# What methods declare

The parameters and the results of a method are declared one declaration after another, each with the
names that share a type; a single result may be a bare type. Every declaration gives its own row of
fields, and its type shows whether it can be named.

* `Node.declared`, `Side.declared`: the declarations of a list, and of one side of a method.
* `Declared.Gives`: the fields of one declaration.
* `methodsOf_declared`: a declared type has one method for each method element, with these fields.
* `CarriesSentinel`: the sentinel of a kind, as the text of a type shows it.
-/

set_option autoImplicit false

namespace Understudy.Go

/-! ## What is declared -/

/-- A declaration in a list of parameters or results, or a result that is a bare type. -/
inductive Declared where
  | declaration (n : Node)
  | bare (type : Node)

namespace Node

/-- Whether the node declares parameters or results. -/
def isDeclaration (n : Node) : Bool :=
  n.kind = .parameterDeclaration || n.kind = .variadicParameterDeclaration

/-- What a list of parameters or results declares, in order. -/
def declared (list : Node) : List Declared :=
  if list.kind = .parameterList then (list.named.filter isDeclaration).map .declaration
  else [.bare list]

end Node

namespace Declared

/-- The names that are declared. -/
def names : Declared → List String
  | declaration n => (n.childrenIn .name).map Node.text
  | bare _ => []

/-- The text of the type that the names share. A variadic parameter has its sentinel only. -/
def type (package : String) : Declared → String
  | declaration n =>
    if n.kind = .variadicParameterDeclaration then TypeShape.sentinel n.kind
    else (n.child? .type).elim (TypeShape.sentinel n.kind) (typeText package)
  | bare type => typeText package type

/-- The number of fields of a declaration. -/
def width (d : Declared) : Nat := max 1 d.names.length

/-- The number of fields of several declarations. -/
def total : List Declared → Nat
  | [] => 0
  | d :: ds => d.width + total ds

/-- The fields are those of the names, one if there is no name, and all have the type. -/
structure Gives (package : String) (d : Declared) (row : List Field) : Prop where
  length : row.length = max 1 d.names.length
  names : row.map Field.name = if d.names = [] then [""] else d.names
  types : ∀ f ∈ row, f.type = d.type package

/-- The fields are those of the declarations, row by row. -/
def GivesAll (package : String) (ds : List Declared) (fields : List Field) : Prop :=
  ∃ rows : List (List Field), fields = rows.flatten ∧ List.Forall₂ (Gives package) ds rows

/-- The slot that the declaration makes. -/
def slot : Declared → Slot
  | declaration n =>
    ⟨(n.childrenIn .name).map Node.text,
      if n.kind = .variadicParameterDeclaration then .unsupported n.kind
      else (n.child? .type).elim (.unsupported n.kind) Node.shape⟩
  | bare type => ⟨[], type.shape⟩

section
variable (package : String) (d : Declared)

@[simp] theorem names_slot : d.slot.names = d.names := by
  cases d <;> rfl

theorem typeText_slot : d.slot.typeText package = d.type package := by
  have hsentinel : ∀ kind : Kind,
      qualify package (TypeShape.unsupported kind).text = TypeShape.sentinel kind :=
    fun kind => qualify_sentinel kind.name
  cases d with
  | declaration n =>
    simp only [slot, type, Slot.typeText]
    split
    · exact hsentinel n.kind
    · cases n.child? .type with
      | none => exact hsentinel n.kind
      | some type => rfl
  | bare type => rfl

theorem slot_gives : d.Gives package (d.slot.fields package) := by
  have hfields : d.slot.fields package =
      if d.names = [] then [⟨"", d.type package⟩] else d.names.map (⟨·, d.type package⟩) := by
    rw [Slot.fields, Slot.fieldsWith, names_slot, typeText_slot]
    cases d.names <;> rfl
  rw [hfields]
  by_cases hnames : d.names = []
  · rw [if_pos hnames]
    exact ⟨by rw [hnames]; rfl, by rw [if_pos hnames]; rfl, by simp⟩
  · rw [if_neg hnames]
    have hlength := List.length_pos_iff.2 hnames
    refine ⟨by rw [List.length_map]; omega, ?_, by simp⟩
    rw [if_neg hnames, List.map_map]
    exact List.map_id _

end

end Declared

theorem ofDeclaration?_eq (n : Node) : Slot.ofDeclaration? n =
    if n.isDeclaration then some (Declared.declaration n).slot else none := by
  rw [Slot.ofDeclaration?]
  split
  · rename_i hk
    cases htype : n.child? .type <;> simp [Node.isDeclaration, Declared.slot, hk, htype]
  · rename_i hk
    simp [Node.isDeclaration, Declared.slot, hk]
  · rename_i hk hv
    rw [Node.isDeclaration, decide_eq_false hk, decide_eq_false hv]
    rfl

/-- **A list is read** declaration by declaration. -/
theorem ofList_eq (list : Node) : Slot.ofList list = list.declared.map Declared.slot := by
  rw [Slot.ofList, Node.declared]
  split
  · rw [List.map_map]
    induction list.named with
    | nil => rfl
    | cons n rest ih =>
      rw [List.filterMap_cons, ofDeclaration?_eq, List.filter_cons, ih]
      cases n.isDeclaration <;> rfl
  · rfl

/-! ## Methods -/

/-- The two lists of a method. -/
inductive Side where
  | parameters
  | result

namespace Side

def role : Side → Role
  | parameters => .parameters
  | result => .result

/-- What the list of a method declares. -/
def declared (side : Side) (method : Node) : List Declared :=
  (method.child? side.role).elim [] Node.declared

/-- The fields of the list. -/
def fields : Side → Method → List Field
  | parameters, m => m.input
  | result, m => m.output

/-- The method with the fields of the list changed. -/
def modify (f : List Field → List Field) : Side → Method → Method
  | parameters, m => { m with input := f m.input }
  | result, m => { m with output := f m.output }

/-- The slots of the list. -/
def slots (side : Side) (method : Node) : List Slot := (side.declared method).map Declared.slot

theorem ofList?_eq (side : Side) (method : Node) :
    Slot.ofList? (method.child? side.role) = side.slots method := by
  rw [slots, declared]
  cases method.child? side.role with
  | none => rfl
  | some list => exact ofList_eq list

end Side

/-- The method is the one that the node declares in an interface of `package`. -/
structure DeclaresMethod (package : String) (n : Node) (m : Method) : Prop where
  name : (n.child? .name).map Node.text = some m.name
  fields : ∀ side : Side, Declared.GivesAll package (side.declared n) (side.fields m)

theorem givesAll_fieldsOf (package : String) (ds : List Declared) :
    Declared.GivesAll package ds (fieldsOf package (ds.map Declared.slot)) := by
  refine ⟨ds.map fun d => d.slot.fields package, ?_, ?_⟩
  · rw [fieldsOf, List.flatMap_map, List.flatMap_def]
  · exact List.forall₂_map_right_iff.2 (List.forall₂_same.2 fun d _ => d.slot_gives package)

theorem length_fieldsOf (package : String) (ds : List Declared) :
    (fieldsOf package (ds.map Declared.slot)).length = Declared.total ds := by
  induction ds with
  | nil => rfl
  | cons d ds ih =>
    rw [fieldsOf, List.map_cons, List.flatMap_cons, List.length_append,
      (d.slot_gives package).length, ← fieldsOf, ih, Declared.total, Declared.width]

/-- A method has the fields of its two lists. -/
theorem methodOf?_eq (package : String) (n : Node) :
    methodOf? package n = (n.child? .name).map fun ident =>
      ⟨ident.text, fieldsOf package (Side.parameters.slots n),
        fieldsOf package (Side.result.slots n)⟩ := by
  rw [← Side.ofList?_eq, ← Side.ofList?_eq]
  rfl

theorem declaresMethod_of_methodOf? {package : String} {n : Node} {m : Method}
    (h : methodOf? package n = some m) : DeclaresMethod package n m := by
  rw [methodOf?_eq] at h
  obtain ⟨ident, hident, rfl⟩ := Option.map_eq_some_iff.1 h
  refine ⟨by rw [hident]; rfl, fun side => ?_⟩
  cases side <;> exact givesAll_fieldsOf package _

theorem exists_methodOf? (package : String) {spec n : Node} (h : spec.Formed)
    (hn : n ∈ methodNodes spec) : ∃ m, methodOf? package n = some m := by
  obtain ⟨hformed, hk⟩ := methodNodes_formed h hn
  obtain ⟨ident, hident⟩ := hformed.exists_child hk (.head _)
  exact ⟨_, Option.map_eq_some_iff.2 ⟨ident, hident, rfl⟩⟩

/-- **One method for each method element**, in order. -/
theorem methodsOf_declared (package : String) {spec : Node} (h : spec.Formed) :
    List.Forall₂ (DeclaresMethod package) (methodNodes spec) (methodsOf package spec) := by
  have hsome : ∀ n ∈ methodNodes spec, ∃ m, methodOf? package n = some m :=
    fun n hn => exists_methodOf? package h hn
  rw [methodsOf_eq]
  generalize methodNodes spec = nodes at hsome
  induction nodes with
  | nil => exact .nil
  | cons n rest ih =>
    obtain ⟨m, hm⟩ := hsome n List.mem_cons_self
    rw [List.filterMap_cons_some hm]
    exact .cons (declaresMethod_of_methodOf? hm)
      (ih fun n hn => hsome n (List.mem_cons_of_mem _ hn))

/-- What a method declares, the parameters first. -/
def Node.declaredBy (method : Node) : List Declared :=
  Side.parameters.declared method ++ Side.result.declared method

/-- What a method declares is formed. -/
theorem formed_of_declared {side : Side} {method : Node} (h : method.Formed) {d : Declared}
    (hd : d ∈ side.declared method) :
    (∃ n, d = .declaration n ∧ n.Formed ∧ n.isDeclaration = true) ∨
      ∃ type, d = .bare type ∧ type.Formed := by
  rw [Side.declared] at hd
  cases hlist : method.child? side.role with
  | none => simp [hlist] at hd
  | some list =>
    rw [hlist, Option.elim_some, Node.declared] at hd
    split at hd
    · obtain ⟨n, hn, rfl⟩ := List.mem_map.1 hd
      obtain ⟨hnamed, hdecl⟩ := List.mem_filter.1 hn
      exact .inl ⟨n, rfl, (h.child? hlist).part (Node.mem_parts_of_named hnamed), hdecl⟩
    · exact .inr ⟨list, List.mem_singleton.1 hd, h.child? hlist⟩

theorem Node.Formed.exists_type {n : Node} (h : n.Formed) (hn : n.isDeclaration = true)
    (hk : n.kind ≠ .variadicParameterDeclaration) : ∃ type, n.child? .type = some type := by
  have hplain : n.kind = .parameterDeclaration := by
    simpa [Node.isDeclaration, hk] using hn
  exact h.exists_child hplain (.head _)

/-! ## Sentinels -/

/-- The text is the sentinel of the kind, below slices and pointers. -/
def CarriesSentinel (text kind : String) : Prop :=
  ∃ wrappers : String, text = wrappers ++ ("<error_unhandled_" ++ kind ++ ">") ∧
    ∀ c ∈ wrappers.toList, c = '[' ∨ c = ']' ∨ c = '*'

namespace TypeShape

theorem mem_wrappers (s : TypeShape) : ∀ c ∈ s.wrappers.toList, c = '[' ∨ c = ']' ∨ c = '*' := by
  induction s with
  | named _ | unsupported _ => simp [wrappers]
  | slice e ih => simpa [wrappers] using ih
  | pointer t ih => simpa [wrappers] using ih

theorem carriesSentinel_of_unsupported? (package : String) {s : TypeShape} {kind : Kind}
    (h : s.unsupported? = some kind) : CarriesSentinel (qualify package s.text) kind.name :=
  ⟨s.wrappers, s.qualify_unsupported h, s.mem_wrappers⟩

end TypeShape

/-- The package is written before the end of a text. -/
theorem getLast?_qualifyChars (package cs : List Char) :
    (qualifyChars package cs).getLast? = cs.getLast? := by
  by_cases h : qualifyChars package cs = cs
  · rw [h]
  · obtain ⟨before, c, after, hscan, -, -, htext⟩ := exists_scansTo_of_changed h
    rw [htext, hscan.whole]
    simp [List.getLast?_append, List.getLast?_cons]

namespace TypeShape

theorem not_isAngle_text {s : TypeShape} (hplain : s.IsPlain) (h : s.unsupported? = none) :
    ∀ c ∈ s.text.toList, isAngle c = false := by
  induction s with
  | named t => exact hplain
  | slice e ih => simpa [text, isAngle] using ih hplain h
  | pointer t ih => simpa [text, isAngle] using ih hplain h
  | unsupported => cases h

/-- A type that can be named carries no sentinel, whatever the package is called. -/
theorem not_carriesSentinel (package : String) {s : TypeShape} (hplain : s.IsPlain)
    (h : s.unsupported? = none) (kind : String) :
    ¬ CarriesSentinel (qualify package s.text) kind := by
  -- A sentinel ends in a bracket, and a package is never written at the end of a text.
  rintro ⟨wrappers, htext, -⟩
  have hlast : s.text.toList.getLast? = some '>' := by
    rw [← getLast?_qualifyChars package.toList, ← toList_qualify, htext]
    simp only [String.toList_append, List.getLast?_append]
    rfl
  cases not_isAngle_text hplain h '>' (List.mem_of_getLast? hlast)

end TypeShape

namespace Declared

theorem isPlain_slot {side : Side} {method : Node} (h : method.Formed) {d : Declared}
    (hd : d ∈ side.declared method) : d.slot.shape.IsPlain := by
  obtain ⟨n, rfl, hformed, hdecl⟩ | ⟨type, rfl, hformed⟩ := formed_of_declared h hd
  · rw [slot]
    split
    · trivial
    · rename_i hk
      obtain ⟨type, htype⟩ := hformed.exists_type hdecl hk
      rw [htype]
      exact (hformed.child? htype).isPlain
  · exact hformed.isPlain

end Declared

end Understudy.Go
