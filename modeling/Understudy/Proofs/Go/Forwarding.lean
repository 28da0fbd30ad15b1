import Understudy.Proofs.Go.Files

/-!
# Reading bodies that forward a call

A method of a mock panics where its field is not set, and otherwise calls the field with its own
parameters. Its body is the same in every method up to names, but for the arguments of the call,
which are read one by one.

* `argumentList_reads`: names as the arguments of a call.
* `guard_reads`, `forward_reads`: the two statements.
* `block_reads`: the body of the method.
-/

set_option autoImplicit false

namespace Understudy.Go

open Grammar Rule
open Text (braced)

/-! ## Arguments -/

/-- The node of a name as an argument. -/
def argumentNode (x : Name) : Node := .tree none .expression [.leaf none .identifier x.text]

/-- The tokens of names as arguments. -/
def argumentTokens (args : List Name) : List Token :=
  commaList (args.map fun x => [.word x.text])

/-- The node of the arguments in their parentheses. -/
def argumentsNode (args : List Name) : Node :=
  .tree none .argumentList (.leaf none .mark "(" ::
    (commaNodes (args.map argumentNode) ++ [.leaf none .mark ")"]))

section
variable {levels turns : Nat} {ctx : Context} {rest : List Token}

/-- A name is an operand by itself where neither literal nor call follows. -/
theorem operand_reads (x : Name) (hc : ctx.brace = .literal) (hend : ParameterEnd rest) :
    Reads (levels + 1) turns operand ctx (.word x.text :: rest) [.leaf none .identifier x.text]
      rest := by
  obtain ⟨lines, brace, begins, switches, place⟩ := ctx
  cases hc
  have hbefore : Refuses (levels + 1) turns
      (any [literalOperand, allocation, funcLiteral, namedLiteral])
      ⟨lines, .literal, begins, switches, place⟩ (.word x.text :: rest) := by
    refine Refuses.word ?_ ?_ x.free
    · cases hend <;> cases lines <;> rfl
    · exact (uniform_any _).2 fun r hr =>
        (uniform_any _).1 uniform_operand r (List.mem_append_left _ hr)
  exact Refuses.any_reads (Reads.word (by decide) x.free _) hbefore

theorem expression_reads (x : Name) (hc : ctx.brace = .literal) (hend : ParameterEnd rest) :
    Reads (levels + 2) turns expressionP ctx (.word x.text :: rest) [argumentNode x] rest := by
  have hfront : Refuses (levels + 1) (levels + 1) (symIn prefixOperators) ctx
      (.word x.text :: rest) := rfl
  have hsuffix : Refuses (levels + 1) (levels + 1) (near suffix) ctx rest := by
    apply Refuses.near
    cases hend <;> rfl
  have hbinary : Refuses (levels + 1) (levels + 1) (near (seq binaryOperator operandPhrase)) ctx
      rest := by
    apply Refuses.near
    apply Refuses.seq
    obtain ⟨lines, brace, begins, switches, place⟩ := ctx
    cases hend <;> cases begins <;> rfl
  exact Reads.phrase (Reads.node rfl
    ((hfront.many.seq ((operand_reads x hc hend).seq hsuffix.many)).seq hbinary.many))

theorem argument_reads (x : Name) (hc : ctx.brace = .literal) (hend : ParameterEnd rest) :
    Reads (levels + 2) turns argument ctx (.word x.text :: rest) [argumentNode x] rest :=
  (expression_reads x hc hend).seq hend.refuses_dots.opt

/-- **Names are read as the arguments of a call.** -/
theorem argumentList_reads {args : List Name} (ht : args.length ≤ turns + 1) :
    Reads (levels + 2) turns argumentList ctx
      (.symbol "(" :: (argumentTokens args ++ .symbol ")" :: rest)) [argumentsNode args] rest := by
  have hinside : Reads (levels + 2) turns
      (inside (opt (all [list argument, opt (sym ",")]))) ctx
      (argumentTokens args ++ .symbol ")" :: rest) (commaNodes (args.map argumentNode))
      (.symbol ")" :: rest) := by
    cases args with
    | nil => rfl
    | cons x xs =>
      have hread : ∀ y ∈ x :: xs, ∀ rest, ParameterEnd rest →
          Reads (levels + 2) turns argument
            { ctx with lines := false, brace := .literal, begins := false, switches := false }
            ([.word y.text] ++ rest) [argumentNode y] rest :=
        fun y _ rest hr => argument_reads y rfl hr
      have hcomma : Reads (levels + 2) turns (opt (sym ","))
          { ctx with lines := false, brace := .literal, begins := false, switches := false }
          (.symbol ")" :: rest) [] (.symbol ")" :: rest) := Refuses.opt rfl
      have hargs := (list_reads rfl hread (fun y _ rest _ => ParameterEnd.comma _) (.close rest) rfl
        (by simpa using ht)).seq hcomma
      rw [List.append_nil] at hargs
      exact Reads.within hargs.opt
  exact Reads.node rfl ((Reads.sym "(").seq (hinside.seq (Reads.sym ")")))

end

/-! ## The body -/

/-- The tokens of a call of the receiver's field `f`. -/
def callTokens (f : String) (args : List Name) : List Token :=
  .word "mocker" :: .symbol "." :: .word f :: .symbol "(" :: (argumentTokens args ++ [.symbol ")"])

/-- The tokens of the panic where the field `f` is not set. -/
def guardTokens (f message : String) : List Token :=
  [.word "if", .space, .word "mocker", .symbol ".", .word f, .space, .symbol "==", .space,
    .word "nil", .space, .symbol "\x7b", .newline, ⟨.blank, "\t\t"⟩, .word "panic", .symbol "(",
    ⟨.string, message⟩, .symbol ")", .newline, .tab, .symbol "\x7d"]

/-- The surroundings of the statements of a block. -/
def blockContext : Context := ⟨true, .literal, false, false, .block⟩

section
variable {levels turns : Nat} {rest : List Token} {f message : String} {args : List Name}

/-- The node of the guard. -/
def guardNode (f message : String) : Node :=
  .tree none .statement [.leaf none .mark "if", .leaf none .space " ",
    .tree none .expression [.leaf none .identifier "mocker", .leaf none .mark ".",
      .leaf none .identifier f, .leaf none .space " ", .leaf none .mark "==",
      .leaf none .space " ", .leaf none .literal "nil"],
    .leaf none .space " ",
    .tree none .block [.leaf none .mark "\x7b", .leaf none .space "\n", .leaf none .space "\t\t",
      .tree none .statement [.tree none .expression [.leaf none .identifier "panic",
        .tree none .argumentList [.leaf none .mark "(",
          .tree none .expression [.leaf none .literal message], .leaf none .mark ")"]]],
      .leaf none .space "\n", .leaf none .space "\t", .leaf none .mark "\x7d"]]

/-- The guard is a statement. -/
theorem guard_reads : Reads (levels + 10) turns (phrase .statement) blockContext
    (guardTokens f message ++ .newline :: rest) [guardNode f message] (.newline :: rest) := rfl

/-- The node of the call. -/
def callNode (f : String) (args : List Name) : Node :=
  .tree none .expression [.leaf none .identifier "mocker", .leaf none .mark ".",
    .leaf none .identifier f, argumentsNode args]

theorem callTokens_append : callTokens f args ++ rest = .word "mocker" :: .symbol "." ::
    .word f :: .symbol "(" :: (argumentTokens args ++ .symbol ")" :: rest) := by
  simp [callTokens]

theorem call_reads {ctx : Context} (hc : ctx.lines = true) (hb : ctx.brace = .literal)
    (ht : args.length ≤ levels) : Reads (levels + 4) turns expressionP ctx
      (callTokens f args ++ .newline :: rest) [callNode f args] (.newline :: rest) := by
  rw [callTokens_append]
  obtain ⟨lines, brace, begins, switches, place⟩ := ctx
  cases hc
  cases hb
  have hoperand : Reads (levels + 3) (levels + 3) operand ⟨true, .literal, begins, switches, place⟩
      (.word "mocker" :: .symbol "." :: .word f :: .symbol "(" ::
        (argumentTokens args ++ .symbol ")" :: .newline :: rest))
      [.leaf none .identifier "mocker"] (.symbol "." :: .word f :: .symbol "(" ::
        (argumentTokens args ++ .symbol ")" :: .newline :: rest)) := rfl
  have hfield : Reads (levels + 3) (levels + 3) (near suffix)
      ⟨true, .literal, begins, switches, place⟩ (.symbol "." :: .word f :: .symbol "(" ::
        (argumentTokens args ++ .symbol ")" :: .newline :: rest))
      [.leaf none .mark ".", .leaf none .identifier f]
      (.symbol "(" :: (argumentTokens args ++ .symbol ")" :: .newline :: rest)) := rfl
  have hargs : Reads (levels + 3) (levels + 3) (near suffix)
      ⟨true, .literal, begins, switches, place⟩
      (.symbol "(" :: (argumentTokens args ++ .symbol ")" :: .newline :: rest))
      [argumentsNode args] (.newline :: rest) := by
    have hselection : Refuses (levels + 3) (levels + 3) selection
        ⟨true, .literal, begins, switches, place⟩
        (.symbol "(" :: (argumentTokens args ++ .symbol ")" :: .newline :: rest)) := rfl
    exact Reads.near (hselection.or_reads (argumentList_reads (by omega)).alt) rfl
  have hend : ∀ r, Refuses (levels + 3) (levels + 3) (near r)
      ⟨true, .literal, begins, switches, place⟩ (.newline :: rest) := fun r => Refuses.far rfl rfl
  have hsuffixes : Reads (levels + 3) (levels + 3) (many (near suffix))
      ⟨true, .literal, begins, switches, place⟩ _ _ _ :=
    (hfield.repeats (hargs.repeats (hend suffix).repeats)).many
  have hfront : Refuses (levels + 3) (levels + 3) (symIn prefixOperators)
      ⟨true, .literal, begins, switches, place⟩ (.word "mocker" :: .symbol "." :: .word f ::
        .symbol "(" :: (argumentTokens args ++ .symbol ")" :: .newline :: rest)) := rfl
  exact Reads.phrase (Reads.node rfl ((hfront.many.seq (hoperand.seq hsuffixes)).seq
    (hend (seq binaryOperator operandPhrase)).many))

/-- The tokens of the statement that makes the call, and returns what it gives if there is
something. -/
def forwardTokens (returns : Bool) (f : String) (args : List Name) : List Token :=
  (if returns then [.word "return", .space] else []) ++ callTokens f args

def forwardNode (returns : Bool) (f : String) (args : List Name) : Node :=
  .tree none .statement
    ((if returns then [.leaf none .mark "return", .leaf none .space " "] else []) ++
      [callNode f args])

/-- The call is a statement. -/
theorem forward_reads (returns : Bool) (ht : args.length ≤ levels) :
    Reads (levels + 5) turns (phrase .statement) blockContext
      (forwardTokens returns f args ++ .newline :: rest) [forwardNode returns f args]
      (.newline :: rest) := by
  cases returns with
  | false =>
    have hbefore : Refuses (levels + 4) (levels + 4) (any [
        constDeclaration, varDeclaration, typeDeclaration, valuedKeywordStatement,
        node .statement (key "return"), ifStatement, forStatement, switchStatement, selectStatement,
        node .statement (sym ";"),
        node .statement (seq (alt (key "break") (key "continue")) (opt (near jumpTarget))),
        node .statement (seq (key "goto") (name .identifier)),
        node .statement (key "fallthrough"), blockP, labeledStatement]) blockContext
        (callTokens f args ++ .newline :: rest) := rfl
    have hcall : Reads (levels + 4) (levels + 4) (beginning expressionP) blockContext
        (callTokens f args ++ .newline :: rest) [callNode f args] (.newline :: rest) :=
      Reads.within (call_reads rfl rfl ht)
    have htail : Refuses (levels + 4) (levels + 4) simpleTail blockContext (.newline :: rest) := rfl
    have hplace : Refuses (levels + 4) (levels + 4) placeWord blockContext
        (callTokens f args ++ .newline :: rest) := rfl
    have hlabel : Refuses (levels + 4) (levels + 4) bareLabel blockContext
        (callTokens f args ++ .newline :: rest) := rfl
    have hsimple : Reads (levels + 4) (levels + 4) simpleStatement blockContext _ _ _ :=
      hcall.seq htail.opt
    exact Reads.phrase (Refuses.any_reads (Reads.node rfl
      (hplace.absent.seq (hlabel.absent.seq hsimple))) hbefore)
  | true =>
    have hbefore : Refuses (levels + 4) (levels + 4) (any [
        constDeclaration, varDeclaration, typeDeclaration]) blockContext
        (.word "return" :: .space :: (callTokens f args ++ .newline :: rest)) := rfl
    have hcall : Reads (levels + 4) (levels + 4) expressionP blockContext
        (.space :: (callTokens f args ++ .newline :: rest))
        [Token.space.toNode, callNode f args] (.newline :: rest) :=
      (call_reads rfl rfl ht).lead rfl rfl
    have hend : Refuses (levels + 4) (levels + 4) (near (seq (sym ",") expressionP)) blockContext
        (.newline :: rest) := rfl
    have hvalues : Reads (levels + 4) (levels + 4) expressions blockContext _ _ _ :=
      hcall.seq hend.many
    exact Reads.phrase (Refuses.any_reads (Reads.node rfl
      ((Reads.key "return").seq (hvalues.near rfl)).alt) hbefore)

/-! ## The block -/

/-- The tokens of the body. -/
def bodyTokens (returns : Bool) (f message : String) (args : List Name) : List Token :=
  .symbol "\x7b" :: .newline :: .tab :: (guardTokens f message ++ .newline :: .tab ::
    (forwardTokens returns f args ++ [.newline, .symbol "\x7d"]))

def bodyNode (returns : Bool) (f message : String) (args : List Name) : Node :=
  .tree none .block [.leaf none .mark "\x7b", .leaf none .space "\n", .leaf none .space "\t",
    guardNode f message, .leaf none .space "\n", .leaf none .space "\t",
    forwardNode returns f args, .leaf none .space "\n", .leaf none .mark "\x7d"]

/-- **The body is a block.** -/
theorem block_reads {ctx : Context} (returns : Bool) (ht : args.length ≤ levels) :
    Reads (levels + 12) turns blockP ctx (bodyTokens returns f message args ++ rest)
      [bodyNode returns f message args] rest := by
  have htokens : bodyTokens returns f message args ++ rest = .symbol "\x7b" :: .newline :: .tab ::
      (guardTokens f message ++ .newline :: .tab :: (forwardTokens returns f args ++
        .newline :: .symbol "\x7d" :: rest)) := by
    simp [bodyTokens]
  have hguard : Reads (levels + 11) (levels + 11) (phrase .statement) blockContext
      (.newline :: .tab :: (guardTokens f message ++ .newline :: .tab ::
        (forwardTokens returns f args ++ .newline :: .symbol "\x7d" :: rest)))
      [Token.newline.toNode, Token.tab.toNode, guardNode f message] _ :=
    (guard_reads.lead rfl rfl).lead rfl rfl
  have hforward : Reads (levels + 11) (levels + 11) (phrase .statement) blockContext
      (.tab :: (forwardTokens returns f args ++ .newline :: .symbol "\x7d" :: rest))
      [Token.tab.toNode, forwardNode returns f args] _ :=
    (forward_reads returns (Nat.le_add_right_of_le ht)).lead rfl rfl
  have hstop : Refuses (levels + 11) (levels + 11) (seq terminator (phrase .statement))
      blockContext (.newline :: .symbol "\x7d" :: rest) := rfl
  have hmore : Reads (levels + 11) (levels + 11) (many (seq terminator (phrase .statement)))
      blockContext _ _ _ := ((Reads.newline.seq hforward).repeats hstop.repeats).many
  have hlabel : Reads (levels + 11) (levels + 11) (opt (seq terminator (opt bareLabel)))
      blockContext (.newline :: .symbol "\x7d" :: rest) [Token.newline.toNode]
      (.symbol "\x7d" :: rest) := rfl
  have hbody : Reads (levels + 11) (levels + 11) (inBlock (opt statements)) ctx _ _ _ :=
    Reads.within (hguard.seq (hmore.seq hlabel)).alt.opt
  rw [htokens]
  exact Reads.phrase (Reads.node rfl ((Reads.sym "\x7b").seq (hbody.seq (Reads.sym "\x7d"))))

end

/-! ## Spelling -/

theorem spell_argumentTokens (args : List Name) :
    spell (argumentTokens args) = (", ".intercalate (args.map Name.text)).toList :=
  (toList_commas (by simp) args).symm

theorem spell_bodyTokens (returns : Bool) (f message : String) (args : List Name) :
    spell (bodyTokens returns f message args) =
      (braced ("\n\tif mocker." ++ f ++ " == nil " ++ braced ("\n\t\tpanic(" ++ message ++ ")\n\t") ++
        "\n\t" ++ (if returns then "return " else "") ++ "mocker." ++ f ++ "(" ++
        ", ".intercalate (args.map Name.text) ++ ")\n")).toList := by
  cases returns <;>
    simp [bodyTokens, guardTokens, forwardTokens, callTokens, spell_argumentTokens]

section
variable (f : Name) (args : List Name)

theorem callTokens_freestanding : Freestanding (callTokens f.text args) := by
  refine ⟨⟨'m', rfl, rfl⟩, fun next hn => ?_⟩
  have hargs : Separate (argumentTokens args) (some ')') :=
    separate_commaList (by simpa using fun x _ => x.freestanding) rfl
  exact ⟨rfl, endsBefore_dot f _ _, Token.endsBefore_name f rfl, Token.endsBefore_open _,
    separate_append.2 ⟨hargs, Token.endsBefore_close _, trivial⟩⟩

theorem forwardTokens_separate (returns : Bool) :
    Separate (.tab :: forwardTokens returns f.text args) (some '\n') := by
  have hcall := callTokens_freestanding f args
  cases returns with
  | false => exact hcall.tab rfl
  | true => exact ⟨rfl, rfl, hcall.space rfl⟩

theorem guardTokens_separate {message : String} (hm : message.toList.all Token.isPlain = true) :
    Separate (guardTokens f.text (quoted message)) (some '\n') := by
  have hstring : (⟨.string, quoted message⟩ : Token).endsBefore (some ')') = true := by
    simp [Token.endsBefore, quoted, hm]
  exact ⟨rfl, rfl, rfl, endsBefore_dot f _ _, Token.endsBefore_name f rfl, rfl, rfl, rfl, rfl, rfl,
    Token.endsBefore_openBrace _, rfl, rfl, rfl, Token.endsBefore_open _, hstring,
    Token.endsBefore_close _, rfl, rfl, Token.endsBefore_closeBrace _, trivial⟩

theorem bodyTokens_separate (returns : Bool) {message : String}
    (hm : message.toList.all Token.isPlain = true) (next : Option Char) :
    Separate (bodyTokens returns f.text (quoted message) args) next := by
  refine ⟨Token.endsBefore_openBrace _, rfl, rfl, ?_⟩
  refine separate_append.2 ⟨guardTokens_separate f hm, rfl, ?_⟩
  have hlast : Separate [.newline, .symbol "\x7d"] next :=
    ⟨Token.endsBefore_newline _, Token.endsBefore_closeBrace _, trivial⟩
  exact separate_append.2 ⟨forwardTokens_separate f args returns, hlast⟩

end

end Understudy.Go
