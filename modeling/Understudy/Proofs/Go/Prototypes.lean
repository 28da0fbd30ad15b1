import Understudy.Proofs.Go.PackagePattern
import Understudy.Proofs.Go.Rendering

/-!
# Reading types, parameters and results

What the grammar makes of a spelled prototype, and the fields that its nodes stand for. A list of
types without names also begins like a list of names; `namedParameters_refuses` says that no such
list is taken for names and their type.

* `TypeExpr.reads`, `FieldList.reads`: each piece is read as its node.
* `TypeExpr.shape_node`, `FieldList.slots_node`: the node has the shape or the slots of the piece.
* `TypeExpr.qualify_text`: how the type is written in the declarations of a package.
-/

set_option autoImplicit false

namespace Understudy.Go

open Grammar Rule

/-! ## Tokens -/

namespace Grammar

variable {levels turns : Nat} {ctx : Context} {rest : List Token}

theorem Reads.sym (s : String) :
    Reads levels turns (Rule.sym s) ctx (.symbol s :: rest) [.leaf none .mark s] rest :=
  Reads.token rfl (by simp [Token.isSymbol])

theorem Reads.key (s : String) :
    Reads levels turns (Rule.key s) ctx (.word s :: rest) [.leaf none .mark s] rest :=
  Reads.token rfl (by simp [Token.isWord])

theorem Reads.word {ws : List String} (hws : ws ⊆ reservedWords) {x : String}
    (hx : x ∉ reservedWords) (kind : Kind) :
    Reads levels turns (Rule.word ws kind) ctx (.word x :: rest) [.leaf none kind x] rest :=
  Reads.token rfl (by simpa using fun h => hx (hws h))

theorem Reads.name {x : String} (hx : x ∉ reservedWords) (kind : Kind) :
    Reads levels turns (Grammar.name kind) ctx (.word x :: rest) [.leaf none kind x] rest :=
  Reads.word (List.nil_subset _) hx kind

/-- A rule that refuses one free word refuses them all. -/
theorem Refuses.word {r : GoRule} (h : Refuses levels turns r ctx (.word "x" :: rest))
    (hr : r.Uniform) {x : String} (hx : x ∉ reservedWords) :
    Refuses levels turns r ctx (.word x :: rest) :=
  h.like hr (.cons (.words hx (by decide)) (Alike.refl rest))

/-- A role for a single node. -/
theorem Reads.roleOf {r : GoRule} {what : Role} {ts : List Token} {n : Node}
    (h : Reads levels turns r ctx ts [n] rest) (hn : n.isTrivia = false) :
    Reads levels turns (Rule.role what r) ctx ts [n.withRole what] rest := by
  have hr : Reads levels turns (Rule.role what r) ctx ts (giveRole what [n]) rest := h.role
  rwa [giveRole, List.map_singleton, hn] at hr

end Grammar

/-! ## Types -/

/-- A type that stands before `rest` ends there. -/
structure TypeEnd (ctx : Context) (rest : List Token) : Prop where
  dot : ∀ levels turns, Refuses levels turns (near (sym ".")) ctx rest
  arguments : ∀ levels turns, Refuses levels turns (near typeArguments) ctx rest

theorem TypeEnd.comma (ctx : Context) (rest : List Token) : TypeEnd ctx (.symbol "," :: rest) :=
  ⟨fun _ _ => Refuses.near rfl, fun _ _ => Refuses.near rfl⟩

theorem TypeEnd.close (ctx : Context) (rest : List Token) : TypeEnd ctx (.symbol ")" :: rest) :=
  ⟨fun _ _ => Refuses.near rfl, fun _ _ => Refuses.near rfl⟩

theorem TypeEnd.brace (ctx : Context) (rest : List Token) :
    TypeEnd ctx (.space :: .symbol "\x7b" :: rest) :=
  ⟨fun _ _ => Refuses.near rfl, fun _ _ => Refuses.near rfl⟩

theorem TypeEnd.newline {ctx : Context} (h : ctx.lines = true) (rest : List Token) :
    TypeEnd ctx (.newline :: rest) :=
  ⟨fun _ _ => Refuses.far h rfl, fun _ _ => Refuses.far h rfl⟩

namespace TypeExpr

/-- The node of the type. -/
def node : TypeExpr → Node
  | name x => .leaf none .typeIdentifier x.text
  | qualified q x => .tree none .qualifiedType [
      .leaf (some .package) .packageIdentifier q.text, .leaf none .mark ".",
      .leaf (some .name) .typeIdentifier x.text]
  | slice t => .tree none .sliceType [
      .leaf none .mark "[", .leaf none .mark "]", t.node.withRole .element]
  | pointer t => .tree none .pointerType [.leaf none .mark "*", t.node]

@[simp] theorem isTrivia_node (t : TypeExpr) : t.node.isTrivia = false := by cases t <;> rfl

theorem takeTrivia_tokens (t : TypeExpr) (rest : List Token) :
    takeTrivia (t.tokens ++ rest) = ([], t.tokens ++ rest) := by
  cases t <;> rfl

section
variable {levels turns : Nat} {ctx : Context} {rest : List Token}

/-- A name that no dot follows is no qualified type. -/
theorem qualifiedType_refuses (hend : TypeEnd ctx rest) (x : Name) :
    Refuses levels turns qualifiedType ctx (.word x.text :: rest) :=
  Refuses.node rfl ((Reads.word (by decide) x.free _).role.seq_refuses (hend.dot _ _).seq)

theorem qualifiedType_reads (q x : Name) :
    Reads levels turns qualifiedType ctx (.word q.text :: .symbol "." :: .word x.text :: rest)
      [(qualified q x).node] rest := by
  apply Reads.node rfl
  apply (Reads.word (by decide) q.free _).role.seq
  apply ((Reads.sym ".").near rfl).seq
  exact (Reads.name x.free _).role

theorem simpleType_reads (hend : TypeEnd ctx rest) : ∀ (t : TypeExpr) {levels turns : Nat},
    t.tokens.length ≤ levels → Reads levels turns simpleType ctx (t.tokens ++ rest) [t.node] rest
  | name x, levels, turns, _ => by
    have hq : Refuses levels turns qualifiedType ctx (.word x.text :: rest) :=
      qualifiedType_refuses hend x
    have hx : Reads levels turns typeName ctx (.word x.text :: rest) [(name x).node] rest :=
      Reads.word (by decide) x.free _
    have hi : Refuses levels turns (instanceOf typeName) ctx (.word x.text :: rest) :=
      Refuses.node rfl (hx.role.seq_refuses (hend.arguments _ _))
    have hqi : Refuses levels turns (instanceOf qualifiedType) ctx (.word x.text :: rest) :=
      Refuses.node rfl hq.role.seq
    exact (hqi.or_reads (hq.or_reads (hi.or_reads hx))).alt
  | qualified q x, levels, turns, _ => by
    have hq : Reads levels turns qualifiedType ctx
        (.word q.text :: .symbol "." :: .word x.text :: rest) [(qualified q x).node] rest :=
      qualifiedType_reads q x
    have hi : Refuses levels turns (instanceOf qualifiedType) ctx
        (.word q.text :: .symbol "." :: .word x.text :: rest) :=
      Refuses.node rfl (hq.role.seq_refuses (hend.arguments _ _))
    exact (hi.or_reads hq.alt).alt
  | slice t, 0, turns, hl => by simp [tokens] at hl
  | slice t, levels + 1, turns, hl => by
    have ht : Reads (levels + 1) turns typeP ctx (t.tokens ++ rest) [t.node] rest :=
      Reads.phrase (simpleType_reads hend t (by simp [tokens] at hl; omega)).alt
    have hs : Reads (levels + 1) turns sliceType ctx ((slice t).tokens ++ rest)
        [(slice t).node] rest :=
      Reads.node rfl ((Reads.sym "[").seq ((Reads.sym "]").seq (ht.roleOf t.isTrivia_node)))
    have hn : Refuses (levels + 1) turns namedType ctx ((slice t).tokens ++ rest) := rfl
    have hp : Refuses (levels + 1) turns pointerType ctx ((slice t).tokens ++ rest) := rfl
    exact hn.or_reads (hp.or_reads hs.alt)
  | pointer t, 0, turns, hl => by simp [tokens] at hl
  | pointer t, levels + 1, turns, hl => by
    have ht : Reads (levels + 1) turns typeP ctx (t.tokens ++ rest) [t.node] rest :=
      Reads.phrase (simpleType_reads hend t (by simpa [tokens] using hl)).alt
    have hp : Reads (levels + 1) turns pointerType ctx ((pointer t).tokens ++ rest)
        [(pointer t).node] rest := Reads.node rfl ((Reads.sym "*").seq ht)
    have hn : Refuses (levels + 1) turns namedType ctx ((pointer t).tokens ++ rest) := rfl
    exact hn.or_reads hp.alt

theorem reads (t : TypeExpr) (hend : TypeEnd ctx rest) (hl : t.tokens.length < levels) :
    Reads levels turns typeP ctx (t.tokens ++ rest) [t.node] rest := by
  obtain ⟨k, rfl⟩ : ∃ k, levels = k + 1 := ⟨levels - 1, by omega⟩
  exact Reads.phrase (simpleType_reads hend t (by omega)).alt

/-- A type begins with no symbol but a bracket and a star. -/
theorem sym_refuses (t : TypeExpr) {s : String} (hb : s ≠ "[") (hp : s ≠ "*") :
    Refuses levels turns (sym s) ctx (t.tokens ++ rest) := by
  cases t with
  | name x | qualified x _ => rfl
  | slice t => exact Refuses.token rfl (by simpa [Token.isSymbol] using hb.symm)
  | pointer t => exact Refuses.token rfl (by simpa [Token.isSymbol] using hp.symm)

end

end TypeExpr

/-! ## Declarations of parameters -/

/-- A declaration in a list of parameters. -/
def parameter : GoRule := any [variadicParameter, namedParameters, unnamedParameter]

/-- A further name of a declaration. -/
def furtherName : GoRule := seq (sym ",") (role .name (name .identifier))

/-- The leaf of a declared name. -/
def nameLeaf (x : Name) : Node := .leaf (some .name) .identifier x.text

/-- Nodes with commas between them. -/
def commaNodes : List Node → List Node
  | [] => []
  | n :: ns => n :: ns.flatMap (fun m => [.leaf none .mark ",", .leaf none .space " ", m])

theorem commaList_map {α : Type} (tokens : α → List Token) (x : α) (xs : List α) :
    commaList ((x :: xs).map tokens) =
      tokens x ++ xs.flatMap (fun y => .symbol "," :: .space :: tokens y) := by
  simp [commaList, List.flatMap_map]

/-- A list is no longer than its spelling, and neither is the spelling of an item. -/
theorem flatMap_bounds {α β : Type} (f : α → List β) (hf : ∀ x, 0 < (f x).length) (xs : List α) :
    xs.length ≤ (xs.flatMap f).length ∧ ∀ x ∈ xs, (f x).length ≤ (xs.flatMap f).length := by
  induction xs with
  | nil => simp
  | cons x xs ih =>
    have hx := hf x
    simp only [List.flatMap_cons, List.length_append, List.length_cons, List.forall_mem_cons]
    exact ⟨by omega, by omega, fun y hy => Nat.le_trans (ih.2 y hy) (by omega)⟩

theorem commaList_bounds {α : Type} (tokens : α → List Token) (xs : List α) :
    xs.length ≤ (commaList (xs.map tokens)).length + 1 ∧
      ∀ x ∈ xs, (tokens x).length ≤ (commaList (xs.map tokens)).length := by
  cases xs with
  | nil => simp
  | cons x xs =>
    obtain ⟨hlen, hmem⟩ :=
      flatMap_bounds (fun y => .symbol "," :: .space :: tokens y) (by simp) xs
    simp only [List.length_cons] at hmem
    rw [commaList_map]
    simp only [List.length_cons, List.length_append, List.forall_mem_cons]
    exact ⟨by omega, by omega, fun y hy => by have := hmem y hy; omega⟩

/-- What stands after a declaration of parameters. -/
inductive ParameterEnd : List Token → Prop
  | comma (rest : List Token) : ParameterEnd (.symbol "," :: rest)
  | close (rest : List Token) : ParameterEnd (.symbol ")" :: rest)

namespace ParameterEnd

variable {levels turns : Nat} {ctx : Context} {rest : List Token}

theorem typeEnd (h : ParameterEnd rest) : TypeEnd ctx rest := by
  cases h with
  | comma rest => exact .comma ctx rest
  | close rest => exact .close ctx rest

theorem reads (h : ParameterEnd rest) : Reads levels turns parameterEnd ctx rest [] rest := by
  cases h <;> rfl

theorem refuses_dots (h : ParameterEnd rest) : Refuses levels turns (sym "...") ctx rest := by
  cases h <;> rfl

end ParameterEnd

namespace Group

/-- The node of the declaration. -/
def node (g : Group) : Node :=
  .tree none .parameterDeclaration (commaNodes (g.names.map nameLeaf) ++
    [.leaf none .space " ", g.type.node.withRole .type])

section
variable {levels turns : Nat} {ctx : Context} {rest : List Token}

theorem furtherName_reads (x : Name) : Reads levels turns furtherName ctx
    (.symbol "," :: .space :: .word x.text :: rest)
    [.leaf none .mark ",", .leaf none .space " ", nameLeaf x] rest :=
  (Reads.sym ",").seq ((Reads.name x.free _).role.lead rfl rfl)

theorem tokens_append (g : Group) (rest : List Token) :
    g.tokens ++ rest = .word g.first.text ::
      (g.more.flatMap (fun y => [.symbol ",", .space, .word y.text]) ++
        .space :: (g.type.tokens ++ rest)) := by
  rw [tokens, names, commaList_map]
  simp

theorem tokens_bounds (g : Group) :
    g.more.length ≤ g.tokens.length ∧ g.type.tokens.length ≤ g.tokens.length := by
  obtain ⟨hlen, -⟩ := commaList_bounds (fun x : Name => [Token.word x.text]) g.names
  simp only [names, List.length_cons] at hlen
  simp only [tokens, names, List.length_append, List.length_cons]
  omega

theorem node_eq (g : Group) : g.node = .tree none .parameterDeclaration (nameLeaf g.first ::
    (g.more.flatMap (fun y => [.leaf none .mark ",", .leaf none .space " ", nameLeaf y]) ++
      [.leaf none .space " ", g.type.node.withRole .type])) := by
  simp [node, names, commaNodes, List.flatMap_map]

/-- No dots stand after the first name. -/
theorem variadicParameter_refuses (g : Group) :
    Refuses levels turns variadicParameter ctx (g.tokens ++ rest) := by
  rw [tokens_append]
  apply Refuses.node rfl
  apply (Reads.word (by decide) g.first.free _).role.opt.seq_refuses
  apply Refuses.seq
  cases g.more with
  | nil => exact (g.type.sym_refuses (by decide) (by decide)).lead rfl rfl
  | cons x xs => rfl

theorem namedParameters_reads (g : Group) (hend : ParameterEnd rest)
    (hl : g.type.tokens.length < levels) (ht : g.more.length ≤ turns) :
    Reads levels turns namedParameters ctx (g.tokens ++ rest) [g.node] rest := by
  have hstop : Refuses levels turns furtherName ctx (.space :: (g.type.tokens ++ rest)) :=
    (g.type.sym_refuses (by decide) (by decide)).seq.lead rfl rfl
  have hmore : Repeats levels turns turns furtherName ctx
      (g.more.flatMap (fun y => [.symbol ",", .space, .word y.text]) ++
        .space :: (g.type.tokens ++ rest))
      (g.more.flatMap fun y => [.leaf none .mark ",", .leaf none .space " ", nameLeaf y])
      (.space :: (g.type.tokens ++ rest)) :=
    .flatMap (fun x _ _ (_ : True) => furtherName_reads x) (fun _ _ _ _ => trivial) trivial hstop ht
  have htype : Reads levels turns (role .type typeP) ctx (.space :: (g.type.tokens ++ rest))
      [.leaf none .space " ", g.type.node.withRole .type] rest :=
    ((g.type.reads hend.typeEnd hl).roleOf g.type.isTrivia_node).lead rfl rfl
  rw [tokens_append, node_eq]
  exact Reads.node rfl
    ((Reads.word (by decide) g.first.free _).role.seq (hmore.many.seq (htype.seq hend.reads)))

theorem reads (g : Group) (hend : ParameterEnd rest) (hl : g.type.tokens.length < levels)
    (ht : g.more.length ≤ turns) :
    Reads levels turns parameter ctx (g.tokens ++ rest) [g.node] rest :=
  g.variadicParameter_refuses.or_reads (g.namedParameters_reads hend hl ht).alt

end

end Group

/-! ## Types without names -/

/-- The tokens of types that follow another one in a list. -/
def furtherTypes (ts : List TypeExpr) : List Token :=
  ts.flatMap (fun t => .symbol "," :: .space :: t.tokens)

theorem furtherTypes_cons (t : TypeExpr) (ts : List TypeExpr) (rest : List Token) :
    furtherTypes (t :: ts) ++ rest =
      .symbol "," :: .space :: (t.tokens ++ (furtherTypes ts ++ rest)) := by
  simp [furtherTypes]

/-- What stands after a type in a list of types. Whether the type is taken for a name depends on all
of it. -/
inductive TypesEnd : List Token → Prop
  | intro (ts : List TypeExpr) (rest : List Token) :
      TypesEnd (furtherTypes ts ++ .symbol ")" :: rest)

section
variable {levels turns : Nat} {ctx : Context} {rest : List Token}

theorem typeP_refuses {s : String} (hs : s ∈ [",", ")", ".", "\x7d"]) :
    Refuses levels turns typeP ctx (.symbol s :: rest) := by
  simp only [List.mem_cons, List.not_mem_nil, or_false] at hs
  cases levels with
  | zero => rfl
  | succ levels => rcases hs with rfl | rfl | rfl | rfl <;> rfl

theorem parameterEnd_furtherTypes (ts : List TypeExpr) (rest : List Token) :
    ParameterEnd (furtherTypes ts ++ .symbol ")" :: rest) := by
  cases ts with
  | nil => exact .close rest
  | cons t ts => exact .comma _

/-- Names taken from a list of types end where no type can follow. -/
theorem furtherNames_stuck : ∀ (ts : List TypeExpr) (left : Nat), ∃ ns stop,
    Repeats levels turns left furtherName ctx (furtherTypes ts ++ .symbol ")" :: rest) ns stop ∧
      Refuses levels turns typeP ctx stop
  | [], left => ⟨[], _, Refuses.repeats rfl, typeP_refuses (by decide)⟩
  | _ :: _, 0 => ⟨[], _, rfl, typeP_refuses (by decide)⟩
  | .name x :: ts, left + 1 => by
    obtain ⟨ns, stop, hr, hs⟩ := furtherNames_stuck ts left
    exact ⟨_, stop, (Group.furtherName_reads x).repeats hr, hs⟩
  | .qualified q x :: ts, left + 1 =>
    ⟨_, _, (Group.furtherName_reads q).repeats (Refuses.repeats rfl), typeP_refuses (by decide)⟩
  | .slice t :: ts, left + 1 => ⟨[], _, Refuses.repeats rfl, typeP_refuses (by decide)⟩
  | .pointer t :: ts, left + 1 => ⟨[], _, Refuses.repeats rfl, typeP_refuses (by decide)⟩

namespace TypeExpr

/-- The node of a parameter of the type without a name. -/
def parameterNode (t : TypeExpr) : Node :=
  .tree none .parameterDeclaration [t.node.withRole .type]

theorem variadicParameter_refuses (t : TypeExpr) (hend : ParameterEnd rest) :
    Refuses levels turns variadicParameter ctx (t.tokens ++ rest) := by
  cases t with
  | name x =>
    exact Refuses.node rfl
      ((Reads.word (by decide) x.free _).role.opt.seq_refuses hend.refuses_dots.seq)
  | qualified q x =>
    exact Refuses.node rfl ((Reads.word (by decide) q.free _).role.opt.seq_refuses rfl)
  | slice t => rfl
  | pointer t => rfl

/-- **A list of types is not taken for names and their type.** -/
theorem namedParameters_refuses (t : TypeExpr) (ts : List TypeExpr) :
    Refuses levels turns namedParameters ctx
      (t.tokens ++ (furtherTypes ts ++ .symbol ")" :: rest)) := by
  cases t with
  | name x =>
    obtain ⟨ns, stop, hr, hs⟩ := furtherNames_stuck ts turns
    exact Refuses.node rfl
      ((Reads.word (by decide) x.free _).role.seq_refuses (hr.many.seq_refuses hs.role.seq))
  | qualified q x =>
    have hmany : Reads levels turns (many furtherName) ctx
        (.symbol "." :: .word x.text :: (furtherTypes ts ++ .symbol ")" :: rest)) [] _ :=
      Refuses.many rfl
    exact Refuses.node rfl ((Reads.word (by decide) q.free _).role.seq_refuses
      (hmany.seq_refuses (typeP_refuses (by decide)).role.seq))
  | slice t => rfl
  | pointer t => rfl

theorem parameter_reads (t : TypeExpr) (ts : List TypeExpr) (hl : t.tokens.length < levels) :
    Reads levels turns parameter ctx (t.tokens ++ (furtherTypes ts ++ .symbol ")" :: rest))
      [t.parameterNode] (furtherTypes ts ++ .symbol ")" :: rest) := by
  have hend := parameterEnd_furtherTypes ts rest
  have hu : Reads levels turns unnamedParameter ctx
      (t.tokens ++ (furtherTypes ts ++ .symbol ")" :: rest))
      [t.parameterNode] (furtherTypes ts ++ .symbol ")" :: rest) :=
    Reads.node (t.takeTrivia_tokens _) ((t.reads hend.typeEnd hl).roleOf t.isTrivia_node)
  exact (t.variadicParameter_refuses hend).or_reads ((t.namedParameters_refuses ts).or_reads hu)

end TypeExpr

end

/-! ## Lists of parameters -/

/-- The inside of a list of parameters. -/
def parameters : GoRule := seq (opt (list parameter)) (opt (sym ","))

section
variable {levels turns : Nat} {ctx : Context} {rest : List Token}

theorem parameter_refuses : Refuses levels turns parameter ctx (.symbol ")" :: rest) := by
  have ht : Refuses levels turns unnamedParameter ctx (.symbol ")" :: rest) :=
    Refuses.node rfl (typeP_refuses (by decide)).role
  have hv : Refuses levels turns variadicParameter ctx (.symbol ")" :: rest) := rfl
  have hn : Refuses levels turns namedParameters ctx (.symbol ")" :: rest) := rfl
  exact hv.or (hn.or ht)

/-- Items with commas between them. `Follows` says what may stand after an item. -/
theorem list_reads {α : Type} {r : GoRule} {tokens : α → List Token} {node : α → Node}
    {Follows : List Token → Prop} {stop : List Token} {x : α} {xs : List α}
    (hr : r.leads opensWithToken = true)
    (hread : ∀ y ∈ x :: xs, ∀ rest, Follows rest →
      Reads levels turns r ctx (tokens y ++ rest) [node y] rest)
    (hitem : ∀ y ∈ x :: xs, ∀ rest, Follows rest →
      Follows (.symbol "," :: .space :: (tokens y ++ rest)))
    (hstop : Follows stop) (hend : Refuses levels turns (sym ",") ctx stop)
    (hturns : xs.length ≤ turns) :
    Reads levels turns (list r) ctx (commaList ((x :: xs).map tokens) ++ stop)
      (commaNodes ((x :: xs).map node)) stop := by
  have hmore : Repeats levels turns turns (seq (sym ",") r) ctx
      (xs.flatMap (fun y => .symbol "," :: .space :: tokens y) ++ stop)
      (xs.flatMap fun y => [.leaf none .mark ",", .leaf none .space " ", node y]) stop := by
    refine .flatMap (fun y hy rest hrest => ?_) (fun y hy => hitem y (by simp [hy])) hstop hend.seq
      hturns
    exact (Reads.sym ",").seq ((hread y (by simp [hy]) rest hrest).lead hr rfl)
  have hfollows : Follows (xs.flatMap (fun y => .symbol "," :: .space :: tokens y) ++ stop) :=
    follows_flatMap (fun y hy => hitem y (by simp [hy])) hstop
  have hall : Reads levels turns (list r) ctx _ _ _ :=
    (hread x (by simp) _ hfollows).seq hmore.many
  rw [commaList_map, List.append_assoc]
  simpa [commaNodes, List.flatMap_map] using hall

/-- Declarations with commas between them. -/
theorem parameters_reads {α : Type} {tokens : α → List Token} {node : α → Node}
    {Follows : List Token → Prop} {xs : List α}
    (hread : ∀ x ∈ xs, ∀ rest, Follows rest →
      Reads levels turns parameter ctx (tokens x ++ rest) [node x] rest)
    (hitem : ∀ x ∈ xs, ∀ rest, Follows rest →
      Follows (.symbol "," :: .space :: (tokens x ++ rest)))
    (hstop : Follows (.symbol ")" :: rest)) (hturns : xs.length ≤ turns + 1) :
    Reads levels turns parameters ctx (commaList (xs.map tokens) ++ .symbol ")" :: rest)
      (commaNodes (xs.map node)) (.symbol ")" :: rest) := by
  have hcomma : Reads levels turns (opt (sym ",")) ctx (.symbol ")" :: rest) []
      (.symbol ")" :: rest) := Refuses.opt rfl
  cases xs with
  | nil =>
    have hnone : Reads levels turns (opt (list parameter)) ctx (.symbol ")" :: rest) []
        (.symbol ")" :: rest) := parameter_refuses.seq.opt
    exact hnone.seq hcomma
  | cons x xs =>
    have hall : Reads levels turns parameters ctx _ _ _ :=
      (list_reads rfl hread hitem hstop rfl (by simpa using hturns)).opt.seq hcomma
    simpa using hall

namespace FieldList

/-- The nodes of the declarations. -/
def declarations : FieldList → List Node
  | named groups => groups.map Group.node
  | unnamed types => types.map TypeExpr.parameterNode

/-- The node of the list in its parentheses. -/
def node (l : FieldList) : Node :=
  .tree none .parameterList
    (.leaf none .mark "(" :: (commaNodes l.declarations ++ [.leaf none .mark ")"]))

theorem parameters_reads (l : FieldList) (hl : l.tokens.length < levels)
    (ht : l.tokens.length ≤ turns) :
    Reads levels turns parameters ctx (l.tokens ++ .symbol ")" :: rest)
      (commaNodes l.declarations) (.symbol ")" :: rest) := by
  cases l with
  | named groups =>
    obtain ⟨hlen, hmem⟩ := commaList_bounds Group.tokens groups
    simp only [tokens] at hl ht
    refine Go.parameters_reads (fun g hg rest hr => ?_) (fun g _ rest _ => ParameterEnd.comma _)
      (.close rest) (by omega)
    have hg := hmem g hg
    obtain ⟨hmore, htype⟩ := g.tokens_bounds
    exact g.reads hr (by omega) (by omega)
  | unnamed types =>
    obtain ⟨hlen, hmem⟩ := commaList_bounds TypeExpr.tokens types
    simp only [tokens] at hl ht
    have hread : ∀ t ∈ types, ∀ rest, TypesEnd rest →
        Reads levels turns parameter ctx (t.tokens ++ rest) [t.parameterNode] rest := by
      rintro t ht _ ⟨ts, rest⟩
      exact t.parameter_reads ts (Nat.lt_of_le_of_lt (hmem t ht) hl)
    have hitem : ∀ t ∈ types, ∀ rest, TypesEnd rest →
        TypesEnd (.symbol "," :: .space :: (t.tokens ++ rest)) := by
      rintro t - _ ⟨ts, rest⟩
      rw [← furtherTypes_cons]
      exact .intro (t :: ts) rest
    exact Go.parameters_reads hread hitem (.intro [] rest) (by omega)

/-- **A list of parameters is read as its node.** -/
theorem reads (l : FieldList) (hl : l.tokens.length + 1 < levels) :
    Reads levels turns parametersP ctx (.symbol "(" :: (l.tokens ++ .symbol ")" :: rest))
      [l.node] rest := by
  obtain ⟨k, rfl⟩ : ∃ k, levels = k + 1 := ⟨levels - 1, by omega⟩
  have hinside : Reads k k (inside parameters) ctx (l.tokens ++ .symbol ")" :: rest)
      (commaNodes l.declarations) (.symbol ")" :: rest) :=
    Reads.within (l.parameters_reads (by omega) (by omega))
  exact Reads.phrase (Reads.node rfl ((Reads.sym "(").seq (hinside.seq (Reads.sym ")"))))

end FieldList

/-! ## Results -/

/-- A prototype that stands before `rest` ends there. -/
structure PrototypeEnd (ctx : Context) (rest : List Token) : Prop extends TypeEnd ctx rest where
  result : ∀ levels turns, Refuses levels turns (near result) ctx rest

theorem PrototypeEnd.newline (h : ctx.lines = true) (rest : List Token) :
    PrototypeEnd ctx (.newline :: rest) :=
  ⟨.newline h rest, fun _ _ => Refuses.far h rfl⟩

theorem PrototypeEnd.brace (ctx : Context) (rest : List Token) :
    PrototypeEnd ctx (.space :: .symbol "\x7b" :: rest) := by
  refine ⟨.brace ctx rest, fun levels turns => Refuses.near ?_⟩
  cases levels <;> rfl

namespace Result

/-- The nodes of the result. -/
def nodes : Result → List Node
  | none => []
  | bare t => [.leaf Option.none .space " ", t.node.withRole .result]
  | list l => [.leaf Option.none .space " ", l.node.withRole .result]

theorem reads (r : Result) (hend : PrototypeEnd ctx rest) (hl : r.tokens.length < levels) :
    Reads levels turns (opt (near result)) ctx (r.tokens ++ rest) r.nodes rest := by
  obtain ⟨k, rfl⟩ : ∃ k, levels = k + 1 := ⟨levels - 1, by omega⟩
  cases r with
  | none => exact (hend.result (k + 1) turns).opt
  | bare t =>
    have hp : Refuses (k + 1) turns parametersP ctx (t.tokens ++ rest) :=
      Refuses.phrase (Refuses.node (t.takeTrivia_tokens rest)
        (t.sym_refuses (by decide) (by decide)).seq)
    have ht : Reads (k + 1) turns (phrase .simpleType) ctx (t.tokens ++ rest) [t.node] rest :=
      Reads.phrase (TypeExpr.simpleType_reads hend.toTypeEnd t (by simp [tokens] at hl; omega))
    have hr : Reads (k + 1) turns result ctx (t.tokens ++ rest) [t.node.withRole .result] rest :=
      (hp.or_reads ht).roleOf t.isTrivia_node
    have hline : endsLine (.space :: (t.tokens ++ rest)) = false := by cases t <;> rfl
    exact ((hr.lead rfl rfl).near hline).opt
  | list l =>
    have hp : Reads (k + 1) turns parametersP ctx (.symbol "(" :: (l.tokens ++ .symbol ")" :: rest))
        [l.node] rest := l.reads (by simp [tokens] at hl; omega)
    have hr : Reads (k + 1) turns result ctx (.symbol "(" :: (l.tokens ++ .symbol ")" :: rest))
        [l.node.withRole .result] rest := hp.alt.roleOf rfl
    have htokens : (list l).tokens ++ rest =
        .space :: .symbol "(" :: (l.tokens ++ .symbol ")" :: rest) := by simp [tokens]
    rw [htokens]
    exact ((hr.lead rfl rfl).near rfl).opt

end Result

/-! ## Prototypes -/

namespace Prototype

/-- The nodes of the parameters and the result. -/
def nodes (p : Prototype) : List Node :=
  p.parameters.node.withRole .parameters :: p.result.nodes

theorem tokens_append (p : Prototype) (rest : List Token) : p.tokens ++ rest =
    .symbol "(" :: (p.parameters.tokens ++ .symbol ")" :: (p.result.tokens ++ rest)) := by
  simp [tokens]

theorem parameters_reads (p : Prototype) (hl : p.tokens.length < levels) :
    Reads levels turns (role .parameters parametersP) ctx (p.tokens ++ rest)
      [p.parameters.node.withRole .parameters] (p.result.tokens ++ rest) := by
  simp only [tokens, List.length_cons, List.length_append] at hl
  rw [tokens_append]
  exact (p.parameters.reads (by omega)).roleOf rfl

theorem result_reads (p : Prototype) (hend : PrototypeEnd ctx rest) (hl : p.tokens.length < levels) :
    Reads levels turns (opt (near Grammar.result)) ctx (p.result.tokens ++ rest) p.result.nodes
      rest := by
  simp only [tokens, List.length_cons, List.length_append] at hl
  exact p.result.reads hend (by omega)

theorem endsLine_tokens (p : Prototype) : endsLine (p.tokens ++ rest) = false := by
  rw [tokens_append]
  rfl

end Prototype

end

/-! ## What the nodes stand for -/

/-- Whether the name begins with an upper case letter. -/
def Name.isExported (x : Name) : Bool := x.text.toList.head?.any Char.isUpper

namespace Node

@[simp] theorem role_leaf (r : Option Role) (k : Kind) (t : String) : (leaf r k t).role = r := rfl

@[simp] theorem role_tree (r : Option Role) (k : Kind) (ps : List Node) :
    (tree r k ps).role = r := rfl

@[simp] theorem kind_leaf (r : Option Role) (k : Kind) (t : String) : (leaf r k t).kind = k := rfl

@[simp] theorem kind_tree (r : Option Role) (k : Kind) (ps : List Node) :
    (tree r k ps).kind = k := rfl

@[simp] theorem parts_tree (r : Option Role) (k : Kind) (ps : List Node) :
    (tree r k ps).parts = ps := rfl

@[simp] theorem role_withRole (n : Node) (r : Role) : (n.withRole r).role = some r := by
  cases n <;> rfl

@[simp] theorem kind_withRole (n : Node) (r : Role) : (n.withRole r).kind = n.kind := by
  cases n <;> rfl

@[simp] theorem parts_withRole (n : Node) (r : Role) : (n.withRole r).parts = n.parts := by
  cases n <;> rfl

@[simp] theorem shape_withRole (n : Node) (r : Role) : (n.withRole r).shape = n.shape := by
  cases n with
  | leaf _ k t => rfl
  | tree _ k ps => cases k <;> rfl

end Node

namespace TypeExpr

/-- What remains of the type in a mock. -/
def shape : TypeExpr → TypeShape
  | name x => .named x.text
  | qualified q x => .named (q.text ++ "." ++ x.text)
  | slice t => .slice t.shape
  | pointer t => .pointer t.shape

@[simp] theorem isNamed_node (t : TypeExpr) : t.node.isNamed = true := by cases t <;> rfl

theorem shape_node : ∀ t : TypeExpr, t.node.shape = t.shape
  | name x => rfl
  | qualified q x => rfl
  | slice t => by
    have he : elementShape [.leaf none .mark "[", .leaf none .mark "]", t.node.withRole .element] =
        some t.shape := by
      show elementShape [t.node.withRole .element] = _
      simp [elementShape, shape_node t]
    simp [node, Node.shape, he, shape]
  | pointer t => by
    have ht : targetShape [.leaf none .mark "*", t.node] = some t.shape := by
      show targetShape [t.node] = _
      simp [targetShape, shape_node t]
    simp [node, Node.shape, ht, shape]

theorem text_shape : ∀ t : TypeExpr, t.shape.text = t.text
  | name x => rfl
  | qualified q x => rfl
  | slice t => by simp [shape, TypeShape.text, text, text_shape t]
  | pointer t => by simp [shape, TypeShape.text, text, text_shape t]

/-- The text of the type in the declarations of `package`: an exported name without a package gets
it. -/
def textIn (package : String) : TypeExpr → String
  | name x => if x.isExported then package ++ "." ++ x.text else x.text
  | qualified q x => q.text ++ "." ++ x.text
  | slice t => "[]" ++ t.textIn package
  | pointer t => "*" ++ t.textIn package

/-- **The package is written in front of an exported name**, and only there. -/
theorem qualify_text (package : String) : ∀ t : TypeExpr, qualify package t.text = t.textIn package
  | name x => by
    obtain ⟨c, cs, hx, hc, hcs⟩ := x.chars
    have hdot : '.' ∉ x.text.toList := fun h => by
      rw [hx, List.mem_cons] at h
      rcases h with rfl | h
      · exact absurd hc (by decide)
      · exact absurd (List.all_eq_true.1 hcs _ h) (by decide)
    have hexp : x.isExported = c.isUpper := by simp [Name.isExported, hx]
    have hno : (c :: cs).contains '.' = false := by simpa [hx] using hdot
    apply String.toList_inj.1
    rw [toList_qualify, text, hx, qualifyChars_name hc, hno, textIn, hexp]
    cases c.isUpper <;> simp [hx]
  | qualified q x => by
    obtain ⟨c, cs, hq, hc, -⟩ := q.chars
    have hdot : (c :: (cs ++ '.' :: x.text.toList)).contains '.' = true := by simp
    have htext : (qualified q x).text.toList = c :: (cs ++ '.' :: x.text.toList) := by
      simp [text, hq]
    apply String.toList_inj.1
    rw [toList_qualify, htext, qualifyChars_name hc, hdot]
    simp [textIn, hq]
  | slice t => by
    have htext : (slice t).text.toList = '[' :: ']' :: t.text.toList := by simp [text]
    apply String.toList_inj.1
    rw [toList_qualify, htext, qualifyChars_cons rfl, qualifyChars_cons rfl, ← toList_qualify,
      qualify_text package t]
    simp [textIn]
  | pointer t => by
    have htext : (pointer t).text.toList = '*' :: t.text.toList := by simp [text]
    apply String.toList_inj.1
    rw [toList_qualify, htext, qualifyChars_cons rfl, ← toList_qualify, qualify_text package t]
    simp [textIn]

end TypeExpr

/-! ### Lists -/

/-- Commas and blanks do not matter to a choice of nodes that leaves them out. -/
theorem filter_commaNodes {p : Node → Bool} (hm : p (.leaf none .mark ",") = false)
    (hs : p (.leaf none .space " ") = false) (ns : List Node) :
    (commaNodes ns).filter p = ns.filter p := by
  cases ns with
  | nil => rfl
  | cons n ns =>
    have hmore : (ns.flatMap fun m => [.leaf none .mark ",", .leaf none .space " ", m]).filter p =
        ns.filter p := by
      induction ns with
      | nil => rfl
      | cons m ms ih => simp [List.filter_cons, hm, hs, ih]
    simp [commaNodes, List.filter_cons, hmore]

theorem child?_eq (n : Node) (r : Role) : n.child? r = (n.childrenIn r).head? :=
  List.head?_filter.symm

/-- The slot of the declaration. -/
def Group.slot (g : Group) : Slot := ⟨g.names.map Name.text, g.type.shape⟩

theorem Group.childrenIn_node (g : Group) (r : Role) :
    g.node.childrenIn r = (g.names.map nameLeaf).filter (fun n => n.role == some r) ++
      [g.type.node.withRole .type].filter (fun n => n.role == some r) := by
  show List.filter _ (commaNodes _ ++ .leaf none .space " " :: [_]) = _
  rw [List.filter_append, filter_commaNodes rfl rfl]
  rfl

theorem Group.slot_node (g : Group) : Slot.ofDeclaration? g.node = some g.slot := by
  have hrole : ∀ n ∈ g.names.map nameLeaf, n.role = some .name := by simp [nameLeaf]
  have hnames : g.node.childrenIn .name = g.names.map nameLeaf := by
    rw [childrenIn_node, List.filter_eq_self.2 fun n hn => by simp [hrole n hn]]
    simp
  have htype : g.node.childrenIn .type = [g.type.node.withRole .type] := by
    rw [childrenIn_node, List.filter_eq_nil_iff.2 fun n hn => by simp [hrole n hn]]
    simp
  have hkind : g.node.kind = .parameterDeclaration := rfl
  simp [Slot.ofDeclaration?, hkind, child?_eq, htype, hnames, slot, TypeExpr.shape_node, nameLeaf,
    Node.text]

theorem TypeExpr.slot_parameterNode (t : TypeExpr) :
    Slot.ofDeclaration? t.parameterNode = some ⟨[], t.shape⟩ := by
  have hnames : t.parameterNode.childrenIn .name = [] := by
    simp [parameterNode, Node.childrenIn]
  have htype : t.parameterNode.child? .type = some (t.node.withRole .type) := by
    simp [parameterNode, Node.child?]
  have hkind : t.parameterNode.kind = .parameterDeclaration := rfl
  simp [Slot.ofDeclaration?, hkind, htype, hnames, TypeExpr.shape_node]

namespace FieldList

/-- The slots of the list. -/
def slots : FieldList → List Slot
  | named groups => groups.map Group.slot
  | unnamed types => types.map fun t => ⟨[], t.shape⟩

theorem isNamed_declarations (l : FieldList) : ∀ n ∈ l.declarations, n.isNamed = true := by
  cases l with
  | named groups => exact List.forall_mem_map.2 fun _ _ => rfl
  | unnamed types => exact List.forall_mem_map.2 fun _ _ => rfl

theorem named_node (l : FieldList) : l.node.named = l.declarations := by
  show List.filter _ (_ :: (commaNodes _ ++ [_])) = _
  rw [List.filter_cons_of_neg (by decide), List.filter_append, filter_commaNodes rfl rfl,
    List.filter_eq_self.2 l.isNamed_declarations]
  exact List.append_nil _

/-- **The slots of a list are those of its declarations.** -/
theorem slots_node (l : FieldList) (r : Role) : Slot.ofList (l.node.withRole r) = l.slots := by
  have hnamed : (l.node.withRole r).named = l.declarations := by
    rw [Node.named, Node.parts_withRole]
    exact l.named_node
  have hkind : (l.node.withRole r).kind = .parameterList := rfl
  rw [Slot.ofList, if_pos hkind, hnamed]
  cases l with
  | named groups => simp [declarations, slots, List.filterMap_map, Group.slot_node]
  | unnamed types =>
    simp [declarations, slots, List.filterMap_map, TypeExpr.slot_parameterNode]

/-- The fields of the list in the declarations of `package`: one for each name, and one for each type
without a name. -/
def fields (package : String) : FieldList → List Field
  | named groups =>
    groups.flatMap fun g => g.names.map fun x => ⟨x.text, g.type.textIn package⟩
  | unnamed types => types.map fun t => ⟨"", t.textIn package⟩

theorem fieldsOf_slots (package : String) (l : FieldList) :
    fieldsOf package l.slots = l.fields package := by
  cases l with
  | named groups =>
    have hg : ∀ g : Group, g.slot.fields package =
        g.names.map fun x => ⟨x.text, g.type.textIn package⟩ := fun g => by
      simp [Group.slot, Group.names, Slot.fields, Slot.fieldsWith, Slot.typeText,
        TypeExpr.text_shape, TypeExpr.qualify_text]
    simp [fieldsOf, slots, fields, List.flatMap_map, hg]
  | unnamed types =>
    have ht : ∀ t : TypeExpr, Slot.fields package ⟨[], t.shape⟩ = [⟨"", t.textIn package⟩] :=
      fun t => by simp [Slot.fields, Slot.fieldsWith, Slot.typeText, TypeExpr.text_shape,
        TypeExpr.qualify_text]
    rw [fieldsOf, slots, fields, List.flatMap_map, List.map_eq_flatMap]
    simp [ht]

end FieldList

namespace Result

/-- The fields of the result in the declarations of `package`. -/
def fields (package : String) : Result → List Field
  | none => []
  | bare t => [⟨"", t.textIn package⟩]
  | list l => l.fields package

/-- The slots of the result. -/
def slots : Result → List Slot
  | none => []
  | bare t => [⟨[], t.shape⟩]
  | list l => l.slots

theorem fieldsOf_slots (package : String) (r : Result) :
    fieldsOf package r.slots = r.fields package := by
  cases r with
  | none => rfl
  | bare t => exact FieldList.fieldsOf_slots package (.unnamed [t])
  | list l => exact l.fieldsOf_slots package

/-- The node of the result, if there is one. -/
def node? : Result → Option Node
  | none => Option.none
  | bare t => some (t.node.withRole .result)
  | list l => some (l.node.withRole .result)

theorem find?_nodes (r : Result) : r.nodes.find? (fun n => n.role == some .result) = r.node? := by
  cases r <;> simp [nodes, node?]

/-- **The slots of a result** are those of its list, or its type without a name. -/
theorem slots_node? (r : Result) : Slot.ofList? r.node? = r.slots := by
  cases r with
  | none => rfl
  | bare t =>
    have hkind : t.node.kind ≠ .parameterList := by cases t <;> simp [TypeExpr.node]
    simp [node?, slots, Slot.ofList?, Slot.ofList, hkind, TypeExpr.shape_node]
  | list l => exact l.slots_node .result

end Result

namespace Prototype

section
variable (p : Prototype) {k : Kind} {front back : List Node}

theorem child?_parameters (hfront : ∀ n ∈ front, (n.role == some .parameters) = false) :
    Slot.ofList? (Node.child? .parameters (.tree none k (front ++ (p.nodes ++ back)))) =
      p.parameters.slots := by
  have hfind : Node.child? .parameters (.tree none k (front ++ (p.nodes ++ back))) =
      some (p.parameters.node.withRole .parameters) := by
    rw [Node.child?, Node.parts_tree, List.find?_append,
      List.find?_eq_none.2 fun n hn => by simp [hfront n hn]]
    simp [nodes]
  rw [hfind]
  exact p.parameters.slots_node .parameters

theorem child?_result (hfront : ∀ n ∈ front, (n.role == some .result) = false)
    (hback : ∀ n ∈ back, (n.role == some .result) = false) :
    Slot.ofList? (Node.child? .result (.tree none k (front ++ (p.nodes ++ back)))) =
      p.result.slots := by
  have hfind : Node.child? .result (.tree none k (front ++ (p.nodes ++ back))) =
      p.result.node? := by
    rw [Node.child?, Node.parts_tree, List.find?_append,
      List.find?_eq_none.2 fun n hn => by simp [hfront n hn], Option.none_or, nodes,
      List.cons_append, List.find?_cons_of_neg (by simp), List.find?_append, p.result.find?_nodes,
      List.find?_eq_none.2 fun n hn => by simp [hback n hn], Option.or_none]
  rw [hfind, p.result.slots_node?]

end

end Prototype

end Understudy.Go
