import Understudy.Proofs.Go.Forwarding

/-!
# Reading the file of a mock

A file with the package clause, the imports, the assertion that the mock implements the interface,
the structure with its function fields, and the methods. It is read line by line, and what is found
in it are the package, the imports and the methods with their parameters and results.

* `ForwardingMethod.isRead`, `fieldLine_isRead`: a method and its field.
* `MockFile.lines`: the whole file, `MockFile.parse_text`: it is parsed.
-/

set_option autoImplicit false

namespace Understudy.Go

open Grammar Rule

/-! ## Methods -/

/-- The name of the structure. -/
def mocker : Name := ⟨"Mocker", by decide⟩

/-- The name of the field that belongs to a method. -/
def Name.func (x : Name) : Name where
  text := x.text ++ "Func"
  ordinary := by
    have hreserved : ∀ w ∈ reservedWords, 'F' ∉ w.toList := by decide
    obtain ⟨c, cs, hx, hc, hcs⟩ := x.chars
    have hchars : (x.text ++ "Func").toList = c :: (cs ++ "Func".toList) := by simp [hx]
    refine isOrdinary_of_chars hchars hc ?_ fun hm => hreserved _ hm (by simp)
    rw [List.all_append, hcs]
    decide

/-- The method that a declaration declares. -/
def declaredMethod (package : String) (declaration : Node) : Method where
  name := ((declaration.child? .name).map Node.text).getD ""
  input := fieldsOf package (Signature.ofNode declaration).parameters
  output := fieldsOf package (Signature.ofNode declaration).result

/-- The methods that are declared directly in a file, in order. -/
def declaredMethods (package : String) (file : Node) : List Method :=
  (file.named.filter fun n => n.kind = .methodDeclaration).map (declaredMethod package)

/-- No package has to be written in front of the type's name. -/
def TypeExpr.isSettled : TypeExpr → Bool
  | name x => !x.isExported
  | qualified _ _ => true
  | slice t | pointer t => t.isSettled

theorem TypeExpr.textIn_of_isSettled (package : String) : ∀ {t : TypeExpr}, t.isSettled = true →
    t.textIn package = t.text
  | name x, h => by
    have hx : x.isExported = false := by simpa [isSettled] using h
    simp [textIn, text, hx]
  | qualified q x, _ => rfl
  | slice t, h => congrArg ("[]" ++ ·) (textIn_of_isSettled package (t := t) h)
  | pointer t, h => congrArg ("*" ++ ·) (textIn_of_isSettled package (t := t) h)

/-- A type that means the same in every package. -/
structure SettledType where
  type : TypeExpr
  settled : type.isSettled = true

/-- A method of a mock. -/
structure ForwardingMethod where
  name : Name
  parameters : List (Name × SettledType)
  results : List SettledType

namespace ForwardingMethod

/-- The parameters and the result, the same for the field. -/
def prototype (m : ForwardingMethod) : Prototype where
  parameters := .named (m.parameters.map fun p => ⟨p.1, [], p.2.type⟩)
  result := if m.results = [] then .none else .list (.unnamed (m.results.map SettledType.type))

/-- The text of the panic. -/
def message (m : ForwardingMethod) : String :=
  quoted ("Mocker." ++ m.name.text ++ "Func is not set")

/-- The receiver. -/
def receiver : FieldList := .named [⟨⟨"mocker", by decide⟩, [], .pointer (.name mocker)⟩]

/-- The tokens of the body. -/
def body (m : ForwardingMethod) : List Token :=
  bodyTokens (m.results ≠ []) m.name.func.text m.message (m.parameters.map Prod.fst)

/-- The comment before the method. -/
def comment (m : ForwardingMethod) : Token :=
  ⟨.comment, "// " ++ m.name.text ++ " calls " ++ m.name.text ++ "Func."⟩

/-- The line of the method. -/
def line (m : ForwardingMethod) : Line where
  lead := [.newline, m.comment, .newline]
  body := .word "func" :: .space :: .symbol "(" :: (receiver.tokens ++ .symbol ")" :: .space ::
    .word m.name.text :: (m.prototype.tokens ++ .space :: m.body))
  node := .tree none .methodDeclaration ([.leaf none .mark "func", .leaf none .space " ",
    receiver.node.withRole .receiver, .leaf none .space " ", nameLeaf m.name] ++
    (m.prototype.nodes ++ [.leaf none .space " ", (bodyNode (m.results ≠ []) m.name.func.text
      m.message (m.parameters.map Prod.fst)).withRole .body]))

/-- The line of the field. -/
def fieldLine (m : ForwardingMethod) : Line where
  lead := [.tab]
  body := .word m.name.func.text :: .space :: .word "func" :: m.prototype.tokens
  node := .tree none .fieldDeclaration [nameLeaf m.name.func, .leaf none .space " ",
    .tree (some .type) .functionType (.leaf none .mark "func" :: m.prototype.nodes)]

section
variable {levels turns : Nat} (m : ForwardingMethod)

/-- The field is read as its node. -/
theorem fieldLine_isRead {ctx : Context} (hc : ctx.lines = true)
    (hl : m.prototype.tokens.length < levels) :
    m.fieldLine.IsRead (levels + 1) turns fieldDeclaration ctx := by
  refine ⟨by simp [fieldLine, Token.isTrivia], fun rest => ?_⟩
  have htokens : m.fieldLine.body ++ .newline :: rest = .word m.name.func.text :: .space ::
      .word "func" :: (m.prototype.tokens ++ .newline :: rest) := by
    simp [fieldLine]
  have hname : Reads (levels + 1) turns (role .name (Grammar.name .identifier)) ctx
      (.word m.name.func.text :: .space :: .word "func" ::
        (m.prototype.tokens ++ .newline :: rest)) [nameLeaf m.name.func]
      (.space :: .word "func" :: (m.prototype.tokens ++ .newline :: rest)) :=
    (Reads.name m.name.func.free _).role
  have hfunc : Reads levels levels functionType ctx
      (.word "func" :: (m.prototype.tokens ++ .newline :: rest))
      [.tree none .functionType (.leaf none .mark "func" :: m.prototype.nodes)]
      (.newline :: rest) :=
    Reads.node rfl ((Reads.key "func").seq ((m.prototype.parameters_reads hl).seq
      (m.prototype.result_reads (.newline hc rest) hl)))
  have hbefore : Refuses levels levels (any [namedType, pointerType, sliceType, arrayType,
      structType, interfaceType, mapType, channelType]) ctx
      (.word "func" :: (m.prototype.tokens ++ .newline :: rest)) := rfl
  have htype : Reads (levels + 1) turns (role .type typeP) ctx
      (.word "func" :: (m.prototype.tokens ++ .newline :: rest)) _ _ :=
    (Reads.phrase (Refuses.any_reads hfunc hbefore).alt).roleOf rfl
  have htag : Refuses (levels + 1) turns (near (role .tag stringP)) ctx (.newline :: rest) :=
    Refuses.far hc rfl
  have hend : Reads (levels + 1) turns fieldEnd ctx (.newline :: rest) [] (.newline :: rest) := rfl
  have hnames : Refuses (levels + 1) turns
      (some1 (seq (near (sym ",")) (role .name (Grammar.name .identifier)))) ctx
      (.space :: .word "func" :: (m.prototype.tokens ++ .newline :: rest)) := by
    exact Refuses.seq (Refuses.seq (Refuses.near rfl))
  have hfirst : Refuses (levels + 1) turns (node .fieldDeclaration (all [
      role .name (Grammar.name .identifier),
      some1 (seq (near (sym ",")) (role .name (Grammar.name .identifier))), role .type typeP,
      opt (near (role .tag stringP)), fieldEnd])) ctx (.word m.name.func.text :: .space ::
      .word "func" :: (m.prototype.tokens ++ .newline :: rest)) :=
    Refuses.node rfl (hname.seq_refuses hnames.seq)
  rw [htokens]
  exact hfirst.or_reads (Reads.node rfl (hname.seq (((htype.lead rfl rfl).near rfl).seq
    (htag.opt.seq hend)))).alt

/-- **The method is read as its node.** -/
theorem isRead (hl : m.prototype.tokens.length < levels) (ha : m.parameters.length ≤ levels) :
    m.line.IsRead (levels + 12) turns item fileContext := by
  refine ⟨by simp [line, comment, Token.isTrivia], fun rest => ?_⟩
  have htokens : m.line.body ++ .newline :: rest = .word "func" :: .space :: .symbol "(" ::
      (receiver.tokens ++ .symbol ")" :: .space :: .word m.name.text ::
        (m.prototype.tokens ++ .space :: (m.body ++ .newline :: rest))) := by
    simp [line]
  have hreceiver : Reads (levels + 12) turns (role .receiver parametersP) fileContext
      (.space :: .symbol "(" :: (receiver.tokens ++ .symbol ")" :: .space :: .word m.name.text ::
        (m.prototype.tokens ++ .space :: (m.body ++ .newline :: rest)))) _ _ :=
    ((receiver.reads (by show 4 + 1 < levels + 12; omega)).roleOf rfl).lead rfl rfl
  have hname : Reads (levels + 12) turns (role .name (Grammar.name .identifier)) fileContext
      (.space :: .word m.name.text ::
        (m.prototype.tokens ++ .space :: (m.body ++ .newline :: rest))) _ _ :=
    (Reads.name m.name.free _).role.lead rfl rfl
  have hend : PrototypeEnd fileContext (.space :: (m.body ++ .newline :: rest)) :=
    PrototypeEnd.brace _ _
  have hbody : Reads (levels + 12) turns (opt (near (role .body blockP))) fileContext
      (.space :: (m.body ++ .newline :: rest)) _ (.newline :: rest) :=
    ((((block_reads _ (by simpa using ha)).roleOf rfl).lead rfl rfl).near rfl).opt
  have hmethod : Reads (levels + 12) turns methodDeclaration fileContext _ _ _ :=
    Reads.node rfl ((Reads.key "func").seq (hreceiver.seq (hname.seq
      ((m.prototype.parameters_reads (by omega)).seq
        ((m.prototype.result_reads hend (by omega)).seq hbody)))))
  have hbefore : Refuses (levels + 12) turns (any [packageClause, importDeclaration,
      functionDeclaration]) fileContext (.word "func" :: .space :: .symbol "(" ::
      (receiver.tokens ++ .symbol ")" :: .space :: .word m.name.text ::
        (m.prototype.tokens ++ .space :: (m.body ++ .newline :: rest)))) := rfl
  rw [htokens]
  exact (Refuses.any_reads hmethod hbefore).alt

end

/-- The method that the line declares. -/
def value (m : ForwardingMethod) : Method where
  name := m.name.text
  input := m.parameters.map fun p => ⟨p.1.text, p.2.type.text⟩
  output := m.results.map fun t => ⟨"", t.type.text⟩

theorem fields_prototype (m : ForwardingMethod) (package : String) :
    m.prototype.parameters.fields package = m.value.input ∧
      m.prototype.result.fields package = m.value.output := by
  have htype : ∀ t : SettledType, t.type.textIn package = t.type.text :=
    fun t => TypeExpr.textIn_of_isSettled package t.settled
  constructor
  · rw [prototype, FieldList.fields, List.flatMap_map, value, List.map_eq_flatMap]
    simp [Group.names, htype]
  · by_cases hr : m.results = []
    · simp [prototype, value, Result.fields, hr]
    · simp [prototype, value, Result.fields, FieldList.fields, hr, htype]

/-- **The declaration has the method's name, parameters and results.** -/
theorem declaredMethod_node (m : ForwardingMethod) (package : String) :
    declaredMethod package m.line.node = m.value := by
  obtain ⟨hinput, houtput⟩ := m.fields_prototype package
  have hname : m.line.node.child? .name = some (nameLeaf m.name) := rfl
  have hparams : (Signature.ofNode m.line.node).parameters = m.prototype.parameters.slots := by
    simp only [Signature.ofNode, line]
    apply m.prototype.child?_parameters
    simp [nameLeaf]
  have hresult : (Signature.ofNode m.line.node).result = m.prototype.result.slots := by
    simp only [Signature.ofNode, line]
    apply m.prototype.child?_result <;> simp [nameLeaf]
  rw [declaredMethod, hname, hparams, hresult, FieldList.fieldsOf_slots, Result.fieldsOf_slots,
    hinput, houtput]
  simp [value, nameLeaf, Node.text]

/-! ### Separation -/

section
variable (m : ForwardingMethod) {next : Option Char}

theorem comment_endsBefore : m.comment.endsBefore (some '\n') = true := by
  have hname : m.name.text.toList.all (· != '\n') = true := m.name.all_chars_ne rfl
  have hchars : ("// " ++ m.name.text ++ " calls " ++ m.name.text ++ "Func.").toList =
      '/' :: '/' :: ' ' :: (m.name.text.toList ++ " calls ".toList ++ m.name.text.toList ++
        "Func.".toList) := by simp
  refine Token.endsBefore_comment hchars ?_
  rw [List.all_cons, List.all_append, List.all_append, List.all_append, hname]
  decide

theorem body_separate : Separate m.body next := by
  apply bodyTokens_separate
  rw [String.toList_append, String.toList_append, List.all_append, List.all_append, m.name.plain]
  decide

/-- The line is separate from what follows. -/
theorem line_separate : Separate m.line.fileTokens next := by
  have hlead : Separate m.line.lead (some 'f') :=
    ⟨Token.endsBefore_newline _, m.comment_endsBefore, Token.endsBefore_newline _, trivial⟩
  have hname : Separate [.space, .word m.name.text] (some '(') := m.name.freestanding.space rfl
  have hbody : Separate (.space :: (m.body ++ [.newline])) next :=
    ⟨rfl, separate_append.2 ⟨m.body_separate, Token.endsBefore_newline _, trivial⟩⟩
  have hprototype : Separate (m.prototype.tokens ++ .space :: (m.body ++ [.newline])) next :=
    separate_append.2 ⟨m.prototype.separate_tokens rfl, hbody⟩
  have hrest : Separate ([.space, .word m.name.text] ++
      (m.prototype.tokens ++ .space :: (m.body ++ [.newline]))) next := by
    refine separate_append.2 ⟨?_, hprototype⟩
    rw [m.prototype.tokens_append]
    exact hname
  have hreceiver : Separate (receiver.tokens ++ .symbol ")" :: ([.space, .word m.name.text] ++
      (m.prototype.tokens ++ .space :: (m.body ++ [.newline])))) next :=
    separate_append.2 ⟨receiver.separate_tokens rfl, Token.endsBefore_close _, hrest⟩
  rw [Line.fileTokens, List.append_assoc, separate_append]
  refine ⟨hlead, rfl, rfl, Token.endsBefore_open _, ?_⟩
  simpa using hreceiver

theorem fieldLine_separate :
    Separate (m.fieldLine.lead ++ m.fieldLine.body) (some '\n') := by
  obtain ⟨c, cs, hx, hc, -⟩ := m.name.func.chars
  have hfield : Freestanding m.fieldLine.body := by
    refine ⟨⟨c, by simp [fieldLine, hx], (isAlpha_facts hc).1⟩, fun next hn => ?_⟩
    exact ⟨Token.endsBefore_name _ rfl, rfl, rfl, m.prototype.separate_tokens hn⟩
  exact hfield.tab rfl

end

end ForwardingMethod

/-! ## The structure -/

/-- The lines of the fields. -/
def fieldLines (methods : List ForwardingMethod) : List Line :=
  methods.map ForwardingMethod.fieldLine

def structNode (methods : List ForwardingMethod) : Node :=
  .tree none .structType [.leaf none .mark "struct", .leaf none .space " ",
    .tree none .fieldDeclarationList (enclosedNodes "\x7b" "\x7d" (fieldLines methods))]

/-- A structure is read as a type. -/
theorem structType_reads {levels turns : Nat} {ctx : Context} {rest : List Token}
    {methods : List ForwardingMethod} (hl : ∀ m ∈ methods, m.prototype.tokens.length < levels)
    (ht : methods.length ≤ levels) :
    Reads (levels + 2) turns typeP ctx
      (.word "struct" :: .space :: (enclosed "\x7b" "\x7d" (fieldLines methods) ++ rest))
      [structNode methods] rest := by
  have hlines : ∀ l ∈ fieldLines methods,
      l.IsRead (levels + 1) (levels + 1) fieldDeclaration
        { ctx with lines := true, brace := .literal, begins := false, switches := false } := by
    rw [fieldLines, List.forall_mem_map]
    exact fun m hm => m.fieldLine_isRead rfl (hl m hm)
  have hlen : (fieldLines methods).length ≤ levels + 1 := by
    rw [fieldLines, List.length_map]
    omega
  have hfields : Reads (levels + 1) (levels + 1) (node .fieldDeclarationList (all [
      sym "\x7b", byLine (separated fieldDeclaration), sym "\x7d"])) ctx _ _ rest :=
    Reads.node rfl (enclosed_reads hlines rfl rfl hlen)
  have hstruct : Reads (levels + 1) (levels + 1) structType ctx _ _ _ :=
    Reads.node rfl ((Reads.key "struct").seq (hfields.lead (t := .space) rfl rfl))
  have hbefore : Refuses (levels + 1) (levels + 1)
      (any [namedType, pointerType, sliceType, arrayType]) ctx
      (.word "struct" :: .space ::
        (enclosed "\x7b" "\x7d" (fieldLines methods) ++ rest)) := rfl
  exact Reads.phrase (Refuses.any_reads hstruct hbefore).alt

/-! ## The assertion -/

/-- The type of the interface. -/
def targetType (p : Name) : TypeExpr := .qualified p ⟨"Querier", by decide⟩

/-- The tokens of the assertion's value. -/
def pointerTokens : List Token :=
  [.symbol "(", .symbol "*", .word "Mocker", .symbol ")", .symbol "(", .word "nil", .symbol ")"]

def pointerNode : Node :=
  .tree none .expression [.leaf none .mark "(",
    .tree none .expression [.leaf none .mark "*", .leaf none .identifier "Mocker"],
    .leaf none .mark ")", .tree none .argumentList [.leaf none .mark "(",
      .tree none .expression [.leaf none .literal "nil"], .leaf none .mark ")"]]

/-- The line that asserts that the mock implements the interface of package `p`. -/
def assertionLine (p : Name) : Line where
  lead := [.newline]
  body := .word "var" :: .space :: .word "_" :: .space :: ((targetType p).tokens ++
    .space :: .symbol "=" :: .space :: pointerTokens)
  node := .tree none .varDeclaration [.leaf none .mark "var", .leaf none .space " ",
    .tree none .varSpec [.leaf (some .name) .identifier "_", .leaf none .space " ",
      (targetType p).node.withRole .type, .leaf none .space " ", .leaf none .mark "=",
      .leaf none .space " ", pointerNode]]

theorem assertionLine_isRead (p : Name) {levels turns : Nat} :
    (assertionLine p).IsRead (levels + 10) turns item fileContext := by
  refine ⟨by simp [assertionLine, Token.isTrivia], fun rest => ?_⟩
  have htokens : (assertionLine p).body ++ .newline :: rest = .word "var" :: .space ::
      .word "_" :: .space :: ((targetType p).tokens ++
        .space :: .symbol "=" :: .space :: (pointerTokens ++ .newline :: rest)) := by
    simp [assertionLine]
  have hend : TypeEnd fileContext
      (.space :: .symbol "=" :: .space :: (pointerTokens ++ .newline :: rest)) :=
    ⟨fun _ _ => rfl, fun _ _ => rfl⟩
  have htype : Reads (levels + 9) (levels + 9) (role .type typeP) fileContext
      (.space :: ((targetType p).tokens ++
        .space :: .symbol "=" :: .space :: (pointerTokens ++ .newline :: rest))) _ _ :=
    (((targetType p).reads hend (by show 3 < levels + 9; omega)).roleOf rfl).lead rfl rfl
  have hvalues : Reads (levels + 9) (levels + 9) (opt (near values)) fileContext
      (.space :: .symbol "=" :: .space :: (pointerTokens ++ .newline :: rest))
      [.leaf none .space " ", .leaf none .mark "=", .leaf none .space " ", pointerNode]
      (.newline :: rest) := rfl
  have hname : Reads (levels + 9) (levels + 9) (list (role .name (name .identifier))) fileContext
      (.word "_" :: .space :: ((targetType p).tokens ++
        .space :: .symbol "=" :: .space :: (pointerTokens ++ .newline :: rest)))
      [.leaf (some .name) .identifier "_"]
      (.space :: ((targetType p).tokens ++
        .space :: .symbol "=" :: .space :: (pointerTokens ++ .newline :: rest))) := rfl
  have hspec : Reads (levels + 9) (levels + 9) varSpec fileContext _ _ _ :=
    Reads.node rfl (hname.seq (htype.seq hvalues).alt)
  have hdecl : Reads (levels + 9) (levels + 9) varDeclaration fileContext _ _ _ :=
    Reads.node rfl ((Reads.key "var").seq (hspec.alt.lead (t := .space) rfl rfl))
  have hbefore : Refuses (levels + 9) (levels + 9) constDeclaration fileContext
      (.word "var" :: .space :: .word "_" :: .space :: ((targetType p).tokens ++
        .space :: .symbol "=" :: .space :: (pointerTokens ++ .newline :: rest))) := rfl
  have hfile : Refuses (levels + 10) turns fileDeclaration fileContext
      (.word "var" :: .space :: .word "_" :: .space :: ((targetType p).tokens ++
        .space :: .symbol "=" :: .space :: (pointerTokens ++ .newline :: rest))) := rfl
  rw [htokens]
  exact hfile.or_reads (Reads.phrase (hbefore.or_reads hdecl.alt))

theorem assertionLine_separate (p : Name) {next : Option Char} :
    Separate (assertionLine p).fileTokens next := by
  have htype : Separate (.space :: (targetType p).tokens) (some ' ') :=
    (targetType p).freestanding.space rfl
  have hvalue : Separate (.space :: .symbol "=" :: .space :: (pointerTokens ++ [.newline])) next :=
    ⟨rfl, rfl, rfl, rfl, rfl, rfl, rfl, rfl, rfl, Token.endsBefore_close _,
      Token.endsBefore_newline _, trivial⟩
  have hall : Separate (.space :: (targetType p).tokens ++
      .space :: .symbol "=" :: .space :: (pointerTokens ++ [.newline])) next :=
    separate_append.2 ⟨htype, hvalue⟩
  refine ⟨rfl, rfl, rfl, rfl, ?_⟩
  simpa using hall

/-! ## The file -/

/-- A file with a mock in it. -/
structure MockFile where
  genPackage : Name
  package : Name
  imports : List ImportLine
  modelPath : ImportPath
  methods : List ForwardingMethod

namespace MockFile

/-- The imports of the source file and, after an empty line, the package of the interface. -/
def group (f : MockFile) : ImportGroup :=
  f.imports.map (fun i => ([.tab], i)) ++ [([.newline, .tab], ⟨.name f.package, f.modelPath⟩)]

theorem isTrivia_group (f : MockFile) : ∀ x ∈ f.group, ∀ t ∈ x.1, t.isTrivia = true := by
  rw [group, List.forall_mem_append, List.forall_mem_map, List.forall_mem_singleton]
  simp [Token.isTrivia]

/-- The comment at the head of the file. -/
def header : Token := ⟨.comment, "// Code generated by shmock. DO NOT EDIT."⟩

/-- The comments before the structure. -/
def structComments (f : MockFile) : List Token := [
  .newline,
  ⟨.comment, "// Mocker is a " ++ f.package.text ++ ".Querier whose methods delegate to the"⟩,
  .newline,
  ⟨.comment, "// matching function fields. Calling a method whose field is nil panics."⟩,
  .newline]

theorem structComments_separate (f : MockFile) : Separate f.structComments (some 't') := by
  have hpackage : f.package.text.toList.all (· != '\n') = true := f.package.all_chars_ne rfl
  have hchars : ("// Mocker is a " ++ f.package.text ++
      ".Querier whose methods delegate to the").toList = '/' :: '/' :: (" Mocker is a ".toList ++
        f.package.text.toList ++ ".Querier whose methods delegate to the".toList) := by simp
  refine ⟨Token.endsBefore_newline _, Token.endsBefore_comment hchars ?_,
    Token.endsBefore_newline _, rfl, Token.endsBefore_newline _, trivial⟩
  rw [List.all_append, List.all_append, hpackage]
  decide

/-- The lines of the file. -/
def lines (f : MockFile) : List Line :=
  packageLine [header, .newline, .newline] f.genPackage ::
  f.group.line [.newline] ::
  assertionLine f.package ::
  typeLine f.structComments mocker "struct" (fieldLines f.methods) (structNode f.methods) ::
  f.methods.map ForwardingMethod.line

/-- The lines are separate from each other. -/
theorem separate_lines (f : MockFile) : Separate (f.lines.flatMap Line.fileTokens) none := by
  have hheader : Separate [header, .newline, .newline] (some 'p') :=
    ⟨rfl, Token.endsBefore_newline _, Token.endsBefore_newline _, trivial⟩
  have hlead : Separate [.newline] (some 'i') := ⟨Token.endsBefore_newline _, trivial⟩
  have hgroup : ∀ x ∈ f.group, Separate (x.1 ++ x.2.tokens) (some '\n') := by
    rw [group, List.forall_mem_append, List.forall_mem_map, List.forall_mem_singleton]
    exact ⟨fun i _ => i.freestanding.tab rfl,
      Token.endsBefore_newline _, ImportLine.freestanding _ |>.tab rfl⟩
  have hfields : ∀ l ∈ fieldLines f.methods, Separate (l.lead ++ l.body) (some '\n') := by
    rw [fieldLines, List.forall_mem_map]
    exact fun m _ => m.fieldLine_separate
  apply separate_flatMap
  simp only [lines, List.forall_mem_cons, List.forall_mem_map]
  exact ⟨fun _ => packageLine_separate _ hheader, fun _ => ImportGroup.separate hlead hgroup,
    fun _ => assertionLine_separate _,
    fun _ => typeLine_separate f.structComments_separate ⟨rfl, rfl, trivial⟩ hfields,
    fun m _ _ => m.line_separate⟩

/-- The number of tokens bounds the numbers of imports and methods and the length of a method. -/
theorem length_bounds (f : MockFile) {n : Nat}
    (hn : n = (f.lines.flatMap Line.fileTokens).length) :
    f.group.length ≤ n ∧ f.methods.length ≤ n ∧
      ∀ m ∈ f.methods, m.prototype.tokens.length < n ∧ m.parameters.length ≤ n := by
  obtain ⟨himports, -⟩ := flatMap_bounds Line.tokens (by simp [Line.tokens]) f.group.lines
  obtain ⟨hmethods, hmem⟩ := flatMap_bounds Line.fileTokens Line.fileTokens_length_pos
    (f.methods.map ForwardingMethod.line)
  have hgroup : (f.group.lines.flatMap Line.tokens).length ≤
      (f.group.line [.newline]).fileTokens.length := by
    simp only [Line.fileTokens, ImportGroup.line, enclosed, List.length_append, List.length_cons]
    omega
  have hlen : f.group.lines.length = f.group.length := by simp [ImportGroup.lines]
  rw [List.length_map] at hmethods
  simp only [lines, List.flatMap_cons, List.length_append] at hn
  refine ⟨by omega, by omega, fun m hm => ?_⟩
  have hline := hmem m.line (List.mem_map_of_mem hm)
  obtain ⟨hargs, -⟩ := commaList_bounds Group.tokens
    (m.parameters.map fun p => (⟨p.1, [], p.2.type⟩ : Group))
  simp only [Line.fileTokens, ForwardingMethod.line, ForwardingMethod.prototype, Prototype.tokens,
    FieldList.tokens, List.length_append, List.length_cons, List.length_map] at hline hargs ⊢
  omega

/-- **The file is parsed**, line by line. -/
theorem parse_text (f : MockFile) {source : String}
    (hs : tokens source = f.lines.flatMap Line.fileTokens) :
    parse source = some (fileNode f.lines) := by
  refine parse_lines hs rfl ?_
  obtain ⟨himports, hmethods, hmem⟩ := f.length_bounds rfl
  generalize (f.lines.flatMap Line.fileTokens).length = n at himports hmethods hmem
  have hstruct : (typeLine f.structComments mocker "struct" (fieldLines f.methods)
      (structNode f.methods)).IsRead (8 * n + 13 + 2) (8 * n + 15) item fileContext :=
    typeLine_isRead (by simp [structComments, Token.isTrivia]) rfl fun rest =>
      structType_reads (fun m hm => Nat.lt_of_lt_of_le (hmem m hm).1 (by omega)) (by omega)
  have hmethod : ∀ m ∈ f.methods,
      m.line.IsRead (8 * n + 3 + 12) (8 * n + 15) item fileContext := by
    intro m hm
    obtain ⟨hl, ha⟩ := hmem m hm
    exact m.isRead (by omega) (by omega)
  have hassertion : (assertionLine f.package).IsRead (8 * n + 5 + 10) (8 * n + 15) item
      fileContext := assertionLine_isRead f.package
  simp only [lines, List.forall_mem_cons, List.forall_mem_map]
  refine ⟨packageLine_isRead (by simp [header, Token.isTrivia]) _, ?_, hassertion, hstruct, hmethod⟩
  exact ImportGroup.isRead f.isTrivia_group (by simp [Token.isTrivia]) (by omega)

/-! ### What is found -/

theorem isTrivia_lead (f : MockFile) : ∀ l ∈ f.lines, ∀ t ∈ l.lead, t.isTrivia = true := by
  simp [lines, packageLine, header, ImportGroup.line, assertionLine, typeLine, structComments,
    ForwardingMethod.line, ForwardingMethod.comment, Token.isTrivia]

theorem packageName_lines (f : MockFile) :
    packageName (fileNode f.lines) = some f.genPackage.text := by
  rw [packageName_file f.isTrivia_lead]
  rfl

/-- The methods are the declarations of their kind, and of no other one. -/
theorem filter_methods (f : MockFile) {k : Kind} :
    (f.methods.map fun m => m.line.node).filter (fun n => n.kind = k) =
      if k = .methodDeclaration then f.methods.map fun m => m.line.node else [] := by
  have hkind : ∀ n ∈ f.methods.map fun m => m.line.node, n.kind = .methodDeclaration := by
    rw [List.forall_mem_map]
    exact fun _ _ => rfl
  by_cases hk : k = .methodDeclaration
  · rw [if_pos hk, List.filter_eq_self]
    exact fun n hn => by simp [hkind n hn, hk]
  · rw [if_neg hk, List.filter_eq_nil_iff]
    exact fun n hn => by simpa [hkind n hn] using Ne.symm hk

theorem imports_lines (f : MockFile) : Go.imports (fileNode f.lines) =
    .ok (f.imports.map ImportLine.value ++ [⟨f.modelPath.text, f.package.text⟩]) := by
  have hdecl : (f.lines.map Line.node).filter (fun n => n.kind = .importDeclaration) =
      [(f.group.line [.newline]).node] := by
    show _ :: List.filter _ ((f.methods.map ForwardingMethod.line).map Line.node) = _
    rw [List.map_map]
    exact congrArg _ f.filter_methods
  have hspecs : importSpecs (fileNode f.lines) =
      (f.imports ++ [(⟨.name f.package, f.modelPath⟩ : ImportLine)]).map ImportLine.node := by
    rw [importSpecs_file f.isTrivia_lead, hdecl, List.flatMap_singleton,
      ImportGroup.specs_node f.isTrivia_group, group, List.map_append, List.map_map,
      List.map_append]
    rfl
  rw [Go.imports, hspecs, ImportGroup.importsOf_nodes, List.map_append]
  rfl

theorem declaredMethods_lines (f : MockFile) (package : String) :
    declaredMethods package (fileNode f.lines) = f.methods.map ForwardingMethod.value := by
  have hfilter : (f.lines.map Line.node).filter (fun n => n.kind = .methodDeclaration) =
      f.methods.map fun m => m.line.node := by
    show List.filter _ ((f.methods.map ForwardingMethod.line).map Line.node) = _
    rw [List.map_map]
    exact f.filter_methods
  rw [declaredMethods, named_file f.isTrivia_lead rfl (by decide), hfilter, List.map_map]
  exact List.map_congr_left fun m _ => m.declaredMethod_node package

end MockFile

end Understudy.Go
