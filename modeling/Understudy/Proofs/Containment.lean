import Understudy.Proofs.Go.Retyping

/-!
# Types are contained in their slots

A type that cannot be named does no harm to the rest of the interface: it shows in the fields of its
own declaration, and in one warning.

* `Warned`: one warning for each declaration whose type carries a sentinel.
* `unhandledWarnings_specNotices`: what is warned about while the methods are read.
* `methods_contained`: the methods, what another type changes in them, and the warnings.
-/

set_option autoImplicit false

namespace Understudy

open Go
open Text (braced)

/-- Whether the notice is about a type that cannot be named. -/
def Notice.isUnhandled : Notice → Bool
  | .unhandledType _ => true
  | _ => false

/-- The texts of the warnings about types that cannot be named. -/
def unhandledWarnings (notices : List Notice) : List String :=
  (notices.filter Notice.isUnhandled).map Notice.message

/-- The texts warn about the declarations whose types carry a sentinel, once about each. -/
inductive Warned (package : String) : List Declared → List String → Prop
  | nil : Warned package [] []
  | silent {d : Declared} {ds : List Declared} {texts : List String}
    (hd : ∀ kind, ¬ CarriesSentinel (d.type package) kind) (h : Warned package ds texts) :
    Warned package (d :: ds) texts
  | warned {d : Declared} {ds : List Declared} {texts : List String} {kind : String}
    (hd : CarriesSentinel (d.type package) kind) (h : Warned package ds texts) :
    Warned package (d :: ds) (("unhandled type " ++ kind) :: texts)

/-- The warnings about the types of the declarations. -/
def warningsAbout (ds : List Declared) : List String :=
  (unsupportedIn (ds.map Declared.slot)).map fun kind => (Notice.unhandledType kind).message

theorem warningsAbout_cons (d : Declared) (ds : List Declared) :
    warningsAbout (d :: ds) = (d.slot.shape.unsupported?.toList.map fun kind =>
      (Notice.unhandledType kind).message) ++ warningsAbout ds := by
  rw [warningsAbout, List.map_cons, unsupportedIn, List.filterMap_cons]
  cases d.slot.shape.unsupported? <;> rfl

theorem warningsAbout_append (ds ds' : List Declared) :
    warningsAbout (ds ++ ds') = warningsAbout ds ++ warningsAbout ds' := by
  simp only [warningsAbout, unsupportedIn, List.map_append, List.filterMap_append]

theorem warned_warningsAbout (package : String) {ds : List Declared}
    (h : ∀ d ∈ ds, d.slot.shape.IsPlain) : Warned package ds (warningsAbout ds) := by
  induction ds with
  | nil => exact .nil
  | cons d ds ih =>
    have htail := ih fun d hd => h d (List.mem_cons_of_mem _ hd)
    rw [warningsAbout_cons]
    cases hs : d.slot.shape.unsupported? with
    | none =>
      refine .silent (fun kind => ?_) htail
      rw [← d.typeText_slot]
      exact TypeShape.not_carriesSentinel package (h d List.mem_cons_self) hs kind
    | some kind =>
      refine .warned ?_ htail
      rw [← d.typeText_slot]
      exact TypeShape.carriesSentinel_of_unsupported? package hs

theorem unhandledWarnings_append (front back : List Notice) :
    unhandledWarnings (front ++ back) = unhandledWarnings front ++ unhandledWarnings back := by
  simp only [unhandledWarnings, List.filter_append, List.map_append]

theorem unhandledWarnings_unhandledType (kinds : List Kind) :
    unhandledWarnings (kinds.map .unhandledType) =
      kinds.map fun kind => (Notice.unhandledType kind).message := by
  induction kinds with
  | nil => rfl
  | cons kind rest ih => exact congrArg ((Notice.unhandledType kind).message :: ·) ih

/-- What is warned about in a method is what it declares. -/
theorem unhandledWarnings_method (name : String) (n : Node) :
    unhandledWarnings (elementNotices (.method name (Signature.ofNode n))) =
      warningsAbout n.declaredBy := by
  have hparameters : (Signature.ofNode n).parameters = Side.parameters.slots n :=
    Side.parameters.ofList?_eq n
  have hresult : (Signature.ofNode n).result = Side.result.slots n := Side.result.ofList?_eq n
  rw [elementNotices, unhandledWarnings_append, unhandledWarnings_unhandledType, hparameters,
    hresult, Node.declaredBy, warningsAbout_append, warningsAbout, warningsAbout, ← List.map_append]
  exact List.append_nil _

/-- The parts of an interface that are no methods are passed over in silence. -/
theorem unhandledWarnings_elements {ns : List Node}
    (h : ∀ n ∈ ns, n.isMethod = true → ∃ ident, n.child? .name = some ident) :
    unhandledWarnings ((ns.filterMap Element.ofNode?).flatMap elementNotices) =
      warningsAbout ((ns.filter Node.isMethod).flatMap Node.declaredBy) := by
  induction ns with
  | nil => rfl
  | cons n ns ih =>
    have htail := ih fun n hn => h n (List.mem_cons_of_mem _ hn)
    by_cases hn : n.isMethod = true
    · obtain ⟨ident, hident⟩ := h n List.mem_cons_self hn
      have helement : Element.ofNode? n = some (.method ident.text (Signature.ofNode n)) := by
        rw [Element.ofNode?, of_decide_eq_true hn, hident]
        rfl
      rw [List.filterMap_cons_some helement, List.flatMap_cons, unhandledWarnings_append,
        unhandledWarnings_method, htail, List.filter_cons_of_pos hn, List.flatMap_cons,
        warningsAbout_append]
    · rw [List.filter_cons_of_neg hn, ← htail]
      cases helement : Element.ofNode? n with
      | none => rw [List.filterMap_cons_none helement]
      | some e =>
        obtain ⟨kind, text, rfl⟩ : ∃ kind text, e = .other kind text := by
          rw [Element.ofNode?] at helement
          split at helement
          · rename_i hk
            exact absurd (decide_eq_true hk) hn
          · cases helement
          · cases helement
            exact ⟨_, _, rfl⟩
        rw [List.filterMap_cons_some helement, List.flatMap_cons, unhandledWarnings_append]
        rfl

/-- **The warnings about a declared type** are about what its methods declare, in order. -/
theorem unhandledWarnings_specNotices {spec : Node} (h : spec.Formed) :
    unhandledWarnings (specNotices spec) =
      warningsAbout ((methodNodes spec).flatMap Node.declaredBy) := by
  have hparameters : unhandledWarnings (parameterNotices spec) = [] := by
    rw [parameterNotices]
    split <;> rfl
  rw [specNotices, unhandledWarnings_append, hparameters, List.nil_append, bodyOf, methodNodes]
  cases hbody : spec.child? .type with
  | none => rfl
  | some body =>
    by_cases hk : body.kind = .interfaceType
    · simp only [if_pos hk]
      refine unhandledWarnings_elements fun n hn hmethod => ?_
      have hformed := (h.child? hbody).part (Node.mem_parts_of_named hn)
      exact hformed.exists_child (of_decide_eq_true hmethod) (.head _)
    · simp only [if_neg hk]
      rfl

/-- **A type is contained in its own slot.** For every declared type of a source file, and every
package: the methods are read without fail; there is one for each method element, in order, and each
of its two lists has a row of fields for each declaration, as many as there are names and at least
one, all of the same type. Another type in the place of one changes the types of that row, and
nothing else. The warnings are one for each declaration whose type carries a sentinel, and name its
kind. -/
theorem methods_contained {source : String} {file spec : Node} (hfile : parse source = some file)
    (hspec : spec ∈ file.preorder) (package : String) :
    (methodsIn package spec).outcome = .ok (methodsOf package spec) ∧
    List.Forall₂ (DeclaresMethod package) (methodNodes spec) (methodsOf package spec) ∧
    (∀ (i : Nat) (n : Node) (side : Side) (j : Nat) (d : Declared) (new : Node),
      (methodNodes spec)[i]? = some n → (side.declared n)[j]? = some d →
      new.kind ≠ .parameterList →
      methodsOf package (spec.retypedIn i side j new) =
        (methodsOf package spec).modify i (side.modify
          (retypeSpan (Declared.total ((side.declared n).take j)) d.width
            (d.typeWith package new)))) ∧
    Warned package ((methodNodes spec).flatMap Node.declaredBy)
      (unhandledWarnings (methodsIn package spec).notices) := by
  have hformed : spec.Formed := (parse_formed hfile).preorder hspec
  rw [methodsIn_eq]
  refine ⟨rfl, methodsOf_declared package hformed, ?_, ?_⟩
  · intro i n side j d new hn hd hnew
    exact methodsOf_retypedIn package hformed hn hd hnew
  · rw [unhandledWarnings_specNotices hformed]
    refine warned_warningsAbout package fun d hd => ?_
    obtain ⟨method, hmethod, hd⟩ := List.mem_flatMap.1 hd
    have hm := (methodNodes_formed hformed hmethod).1
    rcases List.mem_append.1 hd with hd | hd <;> exact Declared.isPlain_slot hm hd

/-- A source with channels, a variadic parameter, an embedded interface and a comment. -/
def channelSource : String :=
  "package db\n\ntype Querier interface " ++ braced ("\n\tio.Closer\n" ++
    "\tListen(ctx context.Context, a, b chan Row) ([]chan Row, error) // all\n" ++
    "\tPut(rows ...Row)\n") ++ "\n"

/-- A pointer to a type of the package. -/
def rowPointer : Node :=
  .tree none .pointerType [.leaf none .mark "*", .leaf none .typeIdentifier "Row"]

/-- A type that can be named, in the place of the channel that two parameters share. -/
theorem channelSource_contained : ∃ file spec, parse channelSource = some file ∧
    spec ∈ file.preorder ∧
    methodsOf "db" (spec.retypedIn 0 .parameters 1 rowPointer) =
      [⟨"Listen", [⟨"ctx", "context.Context"⟩, ⟨"a", "*db.Row"⟩, ⟨"b", "*db.Row"⟩],
        [⟨"", "[]<error_unhandled_channel_type>"⟩, ⟨"", "error"⟩]⟩,
      ⟨"Put", [⟨"rows", "<error_unhandled_variadic_parameter_declaration>"⟩], []⟩] ∧
    Warned "db" ((methodNodes spec).flatMap Node.declaredBy) ["unhandled type channel_type",
      "unhandled type channel_type", "unhandled type variadic_parameter_declaration"] := by
  have hread : (parse channelSource).any (fun file => file.preorder.any fun spec =>
      (methodsOf "db" spec =
        [⟨"Listen", [⟨"ctx", "context.Context"⟩, ⟨"a", "<error_unhandled_channel_type>"⟩,
          ⟨"b", "<error_unhandled_channel_type>"⟩],
          [⟨"", "[]<error_unhandled_channel_type>"⟩, ⟨"", "error"⟩]⟩,
        ⟨"Put", [⟨"rows", "<error_unhandled_variadic_parameter_declaration>"⟩], []⟩]) &&
      (unhandledWarnings (methodsIn "db" spec).notices = ["unhandled type channel_type",
        "unhandled type channel_type", "unhandled type variadic_parameter_declaration"]) &&
      (methodNodes spec)[0]?.any fun n =>
        Declared.total ((Side.parameters.declared n).take 1) = 1 &&
        (Side.parameters.declared n)[1]?.any fun d =>
          d.width = 2 && d.typeWith "db" rowPointer = "*db.Row") = true := by
    decide +kernel
  obtain ⟨file, hparse, hread⟩ := (Option.any_eq_true _ _).1 hread
  obtain ⟨spec, hspec, hread⟩ := List.any_eq_true.1 hread
  simp only [Bool.and_eq_true, decide_eq_true_eq, Option.any_eq_true] at hread
  obtain ⟨⟨hmethods, hwarnings⟩, n, hn, hstart, d, hd, hwidth, htype⟩ := hread
  obtain ⟨-, -, hretyped, hwarned⟩ := methods_contained hparse hspec "db"
  refine ⟨file, spec, hparse, hspec, ?_, hwarnings ▸ hwarned⟩
  rw [hretyped 0 n .parameters 1 d rowPointer hn hd (by decide), hmethods, hstart, hwidth, htype]
  rfl

end Understudy
