import Understudy.Proofs.Go.Declared

/-!
# One type for another

A method element is taken apart by the roles and kinds of its parts. So writing another type in the
place of one leaves all other declarations of the interface as they are, and with them all fields
but those of the one declaration.

* `Node.retypedIn`: the declared type with another type in one declaration of its interface.
* `retypeSpan`: the fields with another type in a span of them.
* `declared_retypedOn_self`, `declared_retypedOn_other`: what the method declares then.
* `methodsOf_retypedIn`: what becomes of the methods.
-/

set_option autoImplicit false

namespace Understudy.Go

/-! ## Parts of a tree -/

/-- The list with `f` done to the `i`-th of the members that `p` accepts. -/
def modifyAt {α : Type} (p : α → Bool) (f : α → α) : Nat → List α → List α
  | _, [] => []
  | 0, a :: as => if p a then f a :: as else a :: modifyAt p f 0 as
  | i + 1, a :: as => a :: modifyAt p f (if p a then i else i + 1) as

section
variable {α : Type} {p q : α → Bool} {f : α → α}

theorem modify_eq_set {as : List α} {i : Nat} {a : α} (h : as[i]? = some a) :
    as.modify i f = as.set i (f a) := by
  rw [List.modify_eq_set_getElem?, h]
  rfl

theorem filterMap_modify {β : Type} {g : α → Option β} {h : β → β} {as : List α} {i : Nat} {a : α}
    (hsome : ∀ a ∈ as, ∃ b, g a = some b) (ha : as[i]? = some a) (hg : g (f a) = (g a).map h) :
    (as.modify i f).filterMap g = (as.filterMap g).modify i h := by
  induction as generalizing i with
  | nil => simp at ha
  | cons first rest ih =>
    obtain ⟨b, hb⟩ := hsome first List.mem_cons_self
    rw [List.filterMap_cons_some hb]
    cases i with
    | zero =>
      cases ha
      rw [hb] at hg
      rw [List.modify_zero_cons, List.modify_zero_cons, List.filterMap_cons_some hg]
    | succ i =>
      rw [List.modify_succ_cons, List.modify_succ_cons, List.filterMap_cons_some hb,
        ih (fun a ha => hsome a (List.mem_cons_of_mem _ ha)) ha]

theorem filter_modifyAt_self (hf : ∀ a, p a = true → p (f a) = true) (i : Nat) (as : List α) :
    (modifyAt p f i as).filter p = (as.filter p).modify i f := by
  fun_induction modifyAt p f i as with
  | case1 => simp
  | case2 a as ha => simp [ha, hf a ha]
  | case3 a as ha ih => simpa [ha] using ih
  | case4 i a as ih =>
    by_cases ha : p a = true
    · simpa [ha] using ih
    · simpa [ha] using ih

theorem filter_modifyAt_other (hq : ∀ a, p a = true → q a = false ∧ q (f a) = false) (i : Nat)
    (as : List α) : (modifyAt p f i as).filter q = as.filter q := by
  fun_induction modifyAt p f i as with
  | case1 => rfl
  | case2 a as ha => simp [hq a ha]
  | case3 a as ha ih => rw [List.filter_cons, ih, List.filter_cons]
  | case4 i a as ih => rw [List.filter_cons, ih, List.filter_cons]

end

namespace Node

/-- Whether the node has the role. -/
def isIn (r : Role) (n : Node) : Bool := n.role == some r

/-- Whether the node is a method of an interface. -/
def isMethod (n : Node) : Bool := n.kind = .methodElem

/-- The node with `f` done to the `i`-th of its parts that `p` accepts. -/
def modifyPart (p : Node → Bool) (i : Nat) (f : Node → Node) : Node → Node
  | leaf r k t => leaf r k t
  | tree r k ps => tree r k (modifyAt p f i ps)

/-- The declaration with another type. -/
def retyped (n new : Node) : Node := n.modifyPart (isIn .type) 0 fun _ => new.withRole .type

/-- The list with another type in its `j`-th declaration. A bare type is all there is of a list. -/
def retypedAt (side : Side) (j : Nat) (list new : Node) : Node :=
  if list.kind = .parameterList then list.modifyPart isDeclaration j fun n => n.retyped new
  else new.withRole side.role

/-- The method with another type in the `j`-th declaration of one of its lists. -/
def retypedOn (side : Side) (j : Nat) (method new : Node) : Node :=
  method.modifyPart (isIn side.role) 0 fun list => list.retypedAt side j new

/-- The declared type with another type in the `j`-th declaration of a list of the `i`-th method of
its interface. -/
def retypedIn (i : Nat) (side : Side) (j : Nat) (spec new : Node) : Node :=
  spec.modifyPart (isIn .type) 0 fun body =>
    body.modifyPart isMethod i fun method => method.retypedOn side j new

section
variable {p q : Node → Bool} {f : Node → Node} {i j : Nat} {r r' : Role}

@[simp] theorem role_modifyPart (n : Node) : (n.modifyPart p i f).role = n.role := by
  cases n <;> rfl

@[simp] theorem kind_modifyPart (n : Node) : (n.modifyPart p i f).kind = n.kind := by
  cases n <;> rfl

theorem parts_modifyPart (n : Node) : (n.modifyPart p i f).parts = modifyAt p f i n.parts := by
  cases n with
  | leaf => cases i <;> rfl
  | tree => rfl

theorem child?_eq_head?_filter (n : Node) : n.child? r = (n.parts.filter (isIn r)).head? :=
  List.head?_filter.symm

/-- The part in the role is changed. -/
theorem child?_modifyPart_self (hf : ∀ n, isIn r n = true → isIn r (f n) = true) (n : Node) :
    (n.modifyPart (isIn r) 0 f).child? r = (n.child? r).map f := by
  rw [child?_eq_head?_filter, child?_eq_head?_filter, parts_modifyPart, filter_modifyAt_self hf]
  cases n.parts.filter (isIn r) <;> rfl

theorem not_isIn (h : r ≠ r') {n : Node} (hn : n.isIn r = true) : n.isIn r' = false := by
  rw [isIn, eq_of_beq hn]
  simpa using h

/-- The parts in other roles stay. -/
theorem childrenIn_modifyPart (hf : ∀ n, isIn r n = true → isIn r (f n) = true) (h : r ≠ r')
    (n : Node) : (n.modifyPart (isIn r) i f).childrenIn r' = n.childrenIn r' := by
  rw [childrenIn, parts_modifyPart]
  exact filter_modifyAt_other (p := isIn r) (q := isIn r')
    (fun a ha => ⟨not_isIn h ha, not_isIn h (hf a ha)⟩) i n.parts

theorem child?_modifyPart_other (hf : ∀ n, isIn r n = true → isIn r (f n) = true) (h : r ≠ r')
    (n : Node) : (n.modifyPart (isIn r) i f).child? r' = n.child? r' := by
  have hchildren := childrenIn_modifyPart (i := i) hf h n
  rw [child?_eq_head?_filter, child?_eq_head?_filter]
  exact congrArg List.head? hchildren

/-- Parts of a kind are told by it. -/
theorem filter_named_modifyPart (hp : ∀ n, p n = true → n.isNamed = true)
    (hf : ∀ n, p n = true → p (f n) = true) (n : Node) :
    (n.modifyPart p i f).named.filter p = (n.named.filter p).modify i f := by
  have hnamed : ∀ ns : List Node, (ns.filter isNamed).filter p = ns.filter p := by
    intro ns
    rw [List.filter_filter]
    refine List.filter_congr fun a _ => ?_
    cases ha : p a with
    | false => rfl
    | true => rw [hp a ha]; rfl
  rw [named, named, hnamed, hnamed, parts_modifyPart, filter_modifyAt_self hf]

theorem isNamed_of_isMethod {n : Node} (h : n.isMethod = true) : n.isNamed = true := by
  rw [isNamed, of_decide_eq_true h]
  rfl

theorem isNamed_of_isDeclaration {n : Node} (h : n.isDeclaration = true) : n.isNamed = true := by
  rw [isDeclaration, Bool.or_eq_true, decide_eq_true_eq, decide_eq_true_eq] at h
  rcases h with h | h <;> rw [isNamed, h] <;> rfl

end

section
variable (side : Side) (i j : Nat) (new : Node)

theorem isIn_retypedAt {list : Node} (h : list.isIn side.role = true) :
    (list.retypedAt side j new).isIn side.role = true := by
  rw [retypedAt]
  split
  · rwa [isIn, role_modifyPart]
  · simp [isIn]

/-- One method element is changed. -/
theorem methodNodes_retypedIn (spec : Node) :
    methodNodes (spec.retypedIn i side j new) =
      (methodNodes spec).modify i fun method => method.retypedOn side j new := by
  have hbody : (spec.retypedIn i side j new).child? .type = (spec.child? .type).map fun body =>
      body.modifyPart isMethod i fun method => method.retypedOn side j new :=
    child?_modifyPart_self (fun n hn => by rwa [isIn, role_modifyPart]) spec
  rw [methodNodes, hbody, methodNodes]
  cases spec.child? .type with
  | none => simp
  | some body =>
    simp only [Option.map_some, kind_modifyPart]
    split
    · refine filter_named_modifyPart (p := isMethod) (fun n => isNamed_of_isMethod) ?_ body
      intro n hn
      rwa [isMethod, retypedOn, kind_modifyPart]
    · simp

theorem child?_retypedOn_self (method : Node) :
    (method.retypedOn side j new).child? side.role =
      (method.child? side.role).map fun list => list.retypedAt side j new :=
  child?_modifyPart_self (fun _ => isIn_retypedAt side j new) method

theorem child?_retypedOn_other {r : Role} (h : side.role ≠ r) (method : Node) :
    (method.retypedOn side j new).child? r = method.child? r :=
  child?_modifyPart_other (fun _ => isIn_retypedAt side j new) h method

end

end Node

/-! ## Declarations -/

namespace Declared

/-- The declaration with another type. -/
def retyped (side : Side) (d : Declared) (new : Node) : Declared :=
  match d with
  | declaration n => .declaration (n.retyped new)
  | bare _ => .bare (new.withRole side.role)

/-- The text of the type, if `new` is written in the place of it. -/
def typeWith (package : String) (new : Node) : Declared → String
  | declaration n =>
    if n.kind = .variadicParameterDeclaration then TypeShape.sentinel n.kind
    else typeText package new
  | bare _ => typeText package new

theorem names_retyped (side : Side) (d : Declared) (new : Node) :
    (d.retyped side new).names = d.names := by
  cases d with
  | bare => rfl
  | declaration n =>
    have hnames : (n.retyped new).childrenIn .name = n.childrenIn .name :=
      Node.childrenIn_modifyPart (fun _ _ => by simp [Node.isIn]) (by decide) n
    rw [retyped, names, hnames, names]

theorem type_retyped (package : String) (side : Side) {d : Declared} (new : Node)
    (h : ∀ n, d = .declaration n → n.kind ≠ .variadicParameterDeclaration →
      ∃ type, n.child? .type = some type) :
    (d.retyped side new).type package = d.typeWith package new := by
  have hshape : ∀ r, typeText package (new.withRole r) = typeText package new := by
    intro r
    rw [typeText, Node.shape_withRole, typeText]
  cases d with
  | bare => exact hshape side.role
  | declaration n =>
    have htype : (n.retyped new).child? .type = (n.child? .type).map fun _ => new.withRole .type :=
      Node.child?_modifyPart_self (fun _ _ => by simp [Node.isIn]) n
    have hk : (n.retyped new).kind = n.kind := Node.kind_modifyPart n
    simp only [retyped, type, typeWith, hk, htype]
    split
    · rfl
    · rename_i hplain
      obtain ⟨type, ht⟩ := h n rfl hplain
      rw [ht]
      exact hshape .type

end Declared

section
variable (side : Side) {j : Nat} {new : Node}

theorem declared_retypedAt {list : Node} {d : Declared} (hd : list.declared[j]? = some d)
    (hnew : new.kind ≠ .parameterList) :
    (list.retypedAt side j new).declared = list.declared.set j (d.retyped side new) := by
  by_cases hk : list.kind = .parameterList
  · have hk' : (list.retypedAt side j new).kind = .parameterList := by
      rw [Node.retypedAt, if_pos hk, Node.kind_modifyPart, hk]
    rw [Node.declared, if_pos hk] at hd
    rw [Node.declared, if_pos hk', Node.declared, if_pos hk]
    rw [List.getElem?_map] at hd
    obtain ⟨n, hn, rfl⟩ := Option.map_eq_some_iff.1 hd
    have hdeclarations : (list.retypedAt side j new).named.filter Node.isDeclaration =
        (list.named.filter Node.isDeclaration).modify j fun n => n.retyped new := by
      rw [Node.retypedAt, if_pos hk]
      refine Node.filter_named_modifyPart (fun n => Node.isNamed_of_isDeclaration) ?_ list
      intro n hn
      rwa [Node.isDeclaration, Node.retyped, Node.kind_modifyPart]
    rw [hdeclarations, modify_eq_set hn, List.map_set]
    rfl
  · have hsingle : list.declared = [.bare list] := by rw [Node.declared, if_neg hk]
    rw [hsingle] at hd
    obtain ⟨hj, rfl⟩ := List.getElem?_eq_some_iff.1 hd
    obtain rfl : j = 0 := Nat.lt_one_iff.1 hj
    rw [hsingle, Node.retypedAt, if_neg hk, Node.declared, Node.kind_withRole, if_neg hnew]
    rfl

theorem declared_retypedOn_self {method : Node} {d : Declared}
    (hd : (side.declared method)[j]? = some d) (hnew : new.kind ≠ .parameterList) :
    side.declared (method.retypedOn side j new) =
      (side.declared method).set j (d.retyped side new) := by
  rw [Side.declared] at hd
  rw [Side.declared, Node.child?_retypedOn_self, Side.declared]
  cases hlist : method.child? side.role with
  | none => rfl
  | some list =>
    rw [hlist] at hd
    exact declared_retypedAt side hd hnew

theorem declared_retypedOn_other {side' : Side} (h : side.role ≠ side'.role) (method : Node) :
    side'.declared (method.retypedOn side j new) = side'.declared method := by
  rw [Side.declared, Node.child?_retypedOn_other side j new h, Side.declared]

end

/-! ## Spans of fields -/

/-- The fields with the type in the place of the types of `width` of them, from `start` on. -/
def retypeSpan (start width : Nat) (type : String) (fields : List Field) : List Field :=
  fields.take start ++ ((fields.drop start).take width).map ({ · with type }) ++
    fields.drop (start + width)

theorem retypeSpan_append (type : String) (front row back : List Field) :
    retypeSpan front.length row.length type (front ++ row ++ back) =
      front ++ row.map ({ · with type }) ++ back := by
  rw [retypeSpan, List.append_assoc front, List.take_left, List.drop_left, List.take_left,
    ← List.append_assoc front, ← List.length_append, List.drop_left]

section
variable (package : String)

theorem Slot.fields_of_names {s s' : Slot} (h : s'.names = s.names) :
    s'.fields package = (s.fields package).map ({ · with type := s'.typeText package }) := by
  rw [Slot.fields, Slot.fields, Slot.fieldsWith, Slot.fieldsWith, h]
  cases s.names <;> simp

/-- **The fields of one slot** get the type that it has now, and no others do. -/
theorem fieldsOf_set {slots : List Slot} {s s' : Slot} {j : Nat} (hs : slots[j]? = some s)
    (hnames : s'.names = s.names) :
    fieldsOf package (slots.set j s') =
      retypeSpan (fieldsOf package (slots.take j)).length (s.fields package).length
        (s'.typeText package) (fieldsOf package slots) := by
  obtain ⟨hj, hslot⟩ := List.getElem?_eq_some_iff.1 hs
  have hsplit : slots = slots.take j ++ s :: slots.drop (j + 1) := by
    rw [← hslot, ← List.drop_eq_getElem_cons hj, List.take_append_drop]
  have hfields : ∀ s', fieldsOf package (slots.take j ++ s' :: slots.drop (j + 1)) =
      fieldsOf package (slots.take j) ++ s'.fields package ++
        fieldsOf package (slots.drop (j + 1)) := by
    intro s'
    simp [fieldsOf]
  -- The span starts where the fields of the slots before end, and is as wide as the slot.
  rw [List.set_eq_take_append_cons_drop, if_pos hj, hfields, Slot.fields_of_names package hnames,
    ← retypeSpan_append, ← hfields, ← hsplit]

end

/-! ## Methods -/

section
variable (package : String) {method new : Node} {side : Side} {j : Nat} {d : Declared}

/-- **The fields of a method** after one type is exchanged for another. -/
theorem fieldsOf_retypedOn (h : method.Formed) (hd : (side.declared method)[j]? = some d)
    (hnew : new.kind ≠ .parameterList) :
    fieldsOf package (side.slots (method.retypedOn side j new)) =
      retypeSpan (Declared.total ((side.declared method).take j)) d.width
        (d.typeWith package new) (fieldsOf package (side.slots method)) := by
  have hslot : (side.slots method)[j]? = some d.slot := by
    rw [Side.slots, List.getElem?_map, hd]
    rfl
  have hnames : (d.retyped side new).slot.names = d.slot.names := by
    rw [Declared.names_slot, Declared.names_slot, Declared.names_retyped]
  have htype : (d.retyped side new).slot.typeText package = d.typeWith package new := by
    rw [Declared.typeText_slot, Declared.type_retyped]
    rintro n rfl hk
    obtain ⟨n', hn', hformed, hdecl⟩ | ⟨_, hbare, _⟩ :=
      formed_of_declared h (List.mem_of_getElem? hd)
    · cases hn'
      exact hformed.exists_type hdecl hk
    · cases hbare
  rw [Side.slots, declared_retypedOn_self side hd hnew, List.map_set, ← Side.slots,
    fieldsOf_set package hslot hnames, htype, Side.slots, ← List.map_take, length_fieldsOf,
    (d.slot_gives package).length, Declared.width]

theorem methodOf?_retypedOn (h : method.Formed) (hd : (side.declared method)[j]? = some d)
    (hnew : new.kind ≠ .parameterList) :
    methodOf? package (method.retypedOn side j new) = (methodOf? package method).map (side.modify
      (retypeSpan (Declared.total ((side.declared method).take j)) d.width
        (d.typeWith package new))) := by
  have hfields := fieldsOf_retypedOn package h hd hnew
  have hname : (method.retypedOn side j new).child? .name = method.child? .name :=
    Node.child?_retypedOn_other side j new (by cases side <;> decide) method
  have hother : ∀ other : Side, side.role ≠ other.role →
      other.slots (method.retypedOn side j new) = other.slots method := by
    intro other hne
    rw [Side.slots, declared_retypedOn_other side hne, Side.slots]
  rw [methodOf?_eq, methodOf?_eq, Option.map_map, hname]
  cases side with
  | parameters => rw [hfields, hother .result (by decide)]; rfl
  | result => rw [hfields, hother .parameters (by decide)]; rfl

/-- **Another type** changes the fields of its declaration, and nothing else in the methods. -/
theorem methodsOf_retypedIn {spec n : Node} {i : Nat} (h : spec.Formed)
    (hn : (methodNodes spec)[i]? = some n) (hd : (side.declared n)[j]? = some d)
    (hnew : new.kind ≠ .parameterList) :
    methodsOf package (spec.retypedIn i side j new) = (methodsOf package spec).modify i (side.modify
      (retypeSpan (Declared.total ((side.declared n).take j)) d.width
        (d.typeWith package new))) := by
  have hformed := (methodNodes_formed h (List.mem_of_getElem? hn)).1
  rw [methodsOf_eq, Node.methodNodes_retypedIn, methodsOf_eq]
  exact filterMap_modify (fun a ha => exists_methodOf? package h ha) hn
    (methodOf?_retypedOn package hformed hd hnew)

end

end Understudy.Go
