import Understudy.Extract
import Understudy.Proofs.Go.Files

/-!
# Extraction recovers an interface

The source of an interface in its plainest form: a package clause, a group of imports, and the
interface with one method on each line. Whatever the names, types, groups of parameters and results,
the methods and imports that extraction finds are those that the source was made from.

* `InterfaceFile.text` writes the source, `InterfaceFile.lines` says what it is read as.
* `parse_text`: the source is parsed.
* `extract_recovers`: extraction gives back what was written.
-/

set_option autoImplicit false

namespace Understudy.Go

open Grammar Rule
open Text (braced)

/-! ## Methods -/

/-- A method of an interface. -/
structure InterfaceMethod where
  name : Name
  prototype : Prototype

namespace InterfaceMethod

def text (m : InterfaceMethod) : String := m.name.text ++ m.prototype.text

def tokens (m : InterfaceMethod) : List Token := .word m.name.text :: m.prototype.tokens

def node (m : InterfaceMethod) : Node :=
  .tree none .methodElem (nameLeaf m.name :: m.prototype.nodes)

/-- The line of the method. -/
def line (m : InterfaceMethod) : Line := ⟨[.tab], m.tokens, m.node⟩

theorem spell_tokens (m : InterfaceMethod) : spell m.tokens = m.text.toList := by
  simp [tokens, text, m.prototype.spell_tokens]

theorem freestanding (m : InterfaceMethod) : Freestanding m.tokens := by
  obtain ⟨c, cs, hx, hc, -⟩ := m.name.chars
  refine ⟨⟨c, by simp [tokens, hx], (isAlpha_facts hc).1⟩, fun next hn => ?_⟩
  exact ⟨Token.endsBefore_name m.name rfl, m.prototype.separate_tokens hn⟩

/-- **A method is read as its node**, up to the line end. -/
theorem reads (m : InterfaceMethod) {levels turns : Nat} {ctx : Context} (hc : ctx.lines = true)
    (hl : m.tokens.length ≤ levels) (rest : List Token) :
    Reads levels turns methodElem ctx (m.tokens ++ .newline :: rest) [m.node] (.newline :: rest) := by
  simp only [tokens, List.length_cons] at hl
  have hparams : Reads levels turns (near (role .parameters parametersP)) ctx
      (m.prototype.tokens ++ .newline :: rest) _ _ :=
    (m.prototype.parameters_reads (by omega)).near m.prototype.endsLine_tokens
  have hresult : Reads levels turns (opt (near result)) ctx
      (m.prototype.result.tokens ++ .newline :: rest) _ _ :=
    m.prototype.result_reads (.newline hc rest) (by omega)
  exact Reads.node rfl
    ((Reads.word (by decide) m.name.free _).role.seq (hparams.seq hresult))

/-- The method that the element declares in an interface of `package`. -/
def value (m : InterfaceMethod) (package : String) : Method :=
  ⟨m.name.text, m.prototype.parameters.fields package, m.prototype.result.fields package⟩

theorem signature_node (m : InterfaceMethod) :
    (Signature.ofNode m.node).parameters = m.prototype.parameters.slots ∧
      (Signature.ofNode m.node).result = m.prototype.result.slots := by
  have hnode : m.node = .tree none .methodElem ([nameLeaf m.name] ++ (m.prototype.nodes ++ [])) := by
    simp [node]
  simp only [Signature.ofNode, hnode]
  constructor
  · apply m.prototype.child?_parameters
    simp [nameLeaf]
  · apply m.prototype.child?_result <;> simp [nameLeaf]

theorem method?_node (m : InterfaceMethod) (package : String) :
    (Element.ofNode? m.node).bind (Element.method? package) = some (m.value package) := by
  obtain ⟨hparams, hresult⟩ := m.signature_node
  have hname : m.node.child? .name = some (nameLeaf m.name) := rfl
  have helement : Element.ofNode? m.node = some (.method m.name.text (Signature.ofNode m.node)) := by
    have hkind : m.node.kind = .methodElem := rfl
    simp [Element.ofNode?, hkind, hname, nameLeaf, Node.text]
  rw [helement, Option.bind_some, Element.method?, hparams, hresult, FieldList.fieldsOf_slots,
    Result.fieldsOf_slots]
  rfl

end InterfaceMethod

/-! ## The interface -/

/-- The source of an interface. -/
structure InterfaceFile where
  package : Name
  imports : List ImportLine
  methods : List InterfaceMethod

namespace InterfaceFile

/-- **The source in its plainest form.** -/
def text (f : InterfaceFile) : String :=
  "package " ++ f.package.text ++ "\n\n" ++
  "import (" ++ String.join (f.imports.map fun i => "\n\t" ++ i.text) ++ "\n)\n\n" ++
  "type Querier interface " ++
  braced (String.join (f.methods.map fun m => "\n\t" ++ m.text) ++ "\n") ++ "\n"

/-! ### Reading the interface -/

/-- The name that extraction looks for. -/
def target : Name := ⟨targetName, by decide⟩

/-- The lines of the methods. -/
def methodLines (methods : List InterfaceMethod) : List Line := methods.map InterfaceMethod.line

/-- The node of the interface. -/
def interfaceNode (methods : List InterfaceMethod) : Node :=
  .tree none .interfaceType (.leaf none .mark "interface" :: .leaf none .space " " ::
    enclosedNodes "\x7b" "\x7d" (methodLines methods))

/-- The declaration of the interface. -/
def targetNode (methods : List InterfaceMethod) : Node :=
  typeSpecNode target (interfaceNode methods)

/-- The line of the declaration. -/
def targetLine (methods : List InterfaceMethod) : Line :=
  typeLine [.newline] target "interface" (methodLines methods) (interfaceNode methods)

section
variable {methods : List InterfaceMethod} {levels turns : Nat} {ctx : Context} {rest : List Token}

theorem methodElem_refuses :
    Refuses levels turns (alt methodElem typeElem) ctx (.symbol "\x7d" :: rest) := by
  have hm : Refuses levels turns methodElem ctx (.symbol "\x7d" :: rest) := rfl
  exact hm.or (Refuses.node rfl (typeP_refuses (by decide)).seq)

theorem interfaceType_reads (hl : ∀ m ∈ methods, m.tokens.length ≤ levels)
    (ht : methods.length ≤ turns) :
    Reads levels turns interfaceType ctx
      (.word "interface" :: .space :: (enclosed "\x7b" "\x7d" (methodLines methods) ++ rest))
      [interfaceNode methods] rest := by
  have hlines : ∀ l ∈ methodLines methods, l.IsRead levels turns (alt methodElem typeElem)
      { ctx with lines := true, brace := .literal, begins := false, switches := false } := by
    rw [methodLines, List.forall_mem_map]
    exact fun m hm => ⟨by simp [InterfaceMethod.line, Token.isTrivia],
      fun rest => (m.reads rfl (hl m hm) rest).alt⟩
  have hbody : Reads levels turns
      (all [sym "\x7b", byLine (separated (alt methodElem typeElem)), sym "\x7d"]) ctx _ _ rest :=
    enclosed_reads hlines rfl methodElem_refuses (by simpa [methodLines] using ht)
  exact Reads.node rfl ((Reads.key "interface").seq (hbody.lead rfl rfl))

/-- An interface is read as a type. -/
theorem typeP_reads (hl : ∀ m ∈ methods, m.tokens.length ≤ levels)
    (ht : methods.length ≤ levels) :
    Reads (levels + 1) turns typeP ctx
      (.word "interface" :: .space :: (enclosed "\x7b" "\x7d" (methodLines methods) ++ rest))
      [interfaceNode methods] rest := by
  have hbefore : Refuses levels levels
      (any [namedType, pointerType, sliceType, arrayType, structType]) ctx
      (.word "interface" :: .space ::
        (enclosed "\x7b" "\x7d" (methodLines methods) ++ rest)) := rfl
  exact Reads.phrase (Refuses.any_reads (interfaceType_reads hl ht) hbefore).alt

theorem targetLine_isRead (hl : ∀ m ∈ methods, m.tokens.length ≤ levels)
    (ht : methods.length ≤ levels) :
    (targetLine methods).IsRead (levels + 2) turns item fileContext :=
  typeLine_isRead (by simp [Token.isTrivia]) rfl fun _ => typeP_reads hl ht

end

/-! ### The whole file -/

/-- The lines of the source. -/
def lines (f : InterfaceFile) : List Line := [
  packageLine [] f.package,
  ImportGroup.line (f.imports.map fun i => ([.tab], i)) [.newline],
  targetLine f.methods]

theorem spell_package (p : Name) :
    spell (packageLine [] p).fileTokens = ("package " ++ p.text ++ "\n").toList := by
  simp [packageLine, Line.fileTokens]

theorem spell_imports (is : List ImportLine) :
    spell (ImportGroup.line (is.map fun i => ([.tab], i)) [.newline]).fileTokens =
      ("\nimport (" ++ String.join (is.map fun i => "\n\t" ++ i.text) ++ "\n)\n").toList := by
  simp [Line.fileTokens, ImportGroup.line, ImportGroup.lines, enclosed, spell_flatMap,
    String.toList_join, List.flatMap_map, Line.tokens, ImportLine.line, ImportLine.spell_tokens]

theorem spell_targetLine (methods : List InterfaceMethod) : spell (targetLine methods).fileTokens =
    ("\ntype Querier interface " ++
      braced (String.join (methods.map fun m => "\n\t" ++ m.text) ++ "\n") ++ "\n").toList := by
  simp [Line.fileTokens, targetLine, typeLine, target, targetName, enclosed, methodLines,
    spell_flatMap, String.toList_join, List.flatMap_map, Line.tokens, InterfaceMethod.line,
    InterfaceMethod.spell_tokens]

theorem spell_lines (f : InterfaceFile) :
    spell (f.lines.flatMap Line.fileTokens) = f.text.toList := by
  rw [lines, List.flatMap_cons, List.flatMap_cons, List.flatMap_cons, List.flatMap_nil,
    List.append_nil, spell_append, spell_append, spell_package, spell_imports, spell_targetLine]
  -- The equation of the definition is slow to make for a text of this length.
  delta text
  simp only [String.toList_append, List.append_assoc]
  simp only [String.reduceToList, List.cons_append, List.nil_append]

theorem targetLine_separate (methods : List InterfaceMethod) (next : Option Char) :
    Separate (targetLine methods).fileTokens next := by
  have hlead : Separate [.newline] (some 't') := ⟨Token.endsBefore_newline _, trivial⟩
  refine typeLine_separate hlead ⟨rfl, rfl, trivial⟩ ?_
  rw [methodLines, List.forall_mem_map]
  exact fun m _ => m.freestanding.tab rfl

theorem separate_lines (f : InterfaceFile) : Separate (f.lines.flatMap Line.fileTokens) none := by
  apply separate_flatMap
  simp only [lines, List.forall_mem_cons, List.not_mem_nil, false_imp_iff, implies_true, and_true]
  refine ⟨fun _ => packageLine_separate _ trivial, fun _ => ?_, targetLine_separate _⟩
  have hlead : Separate [.newline] (some 'i') := ⟨Token.endsBefore_newline _, trivial⟩
  apply ImportGroup.separate hlead
  rw [List.forall_mem_map]
  exact fun i _ => i.freestanding.tab rfl

/-- **The source is cut into the tokens of its lines.** -/
theorem tokens_text (f : InterfaceFile) : tokens f.text = f.lines.flatMap Line.fileTokens := by
  refine tokens_of_spell f.spell_lines f.separate_lines ?_
  have hhead : f.text.toList.head? = some 'p' := by
    delta text
    simp only [String.toList_append, List.append_assoc]
    rfl
  rw [hhead]
  decide

/-- The number of tokens bounds the numbers of imports and methods and the length of a method. -/
theorem length_bounds (f : InterfaceFile) {n : Nat}
    (hn : n = (f.lines.flatMap Line.fileTokens).length) :
    f.imports.length ≤ n ∧ f.methods.length ≤ n ∧ ∀ m ∈ f.methods, m.tokens.length ≤ n := by
  obtain ⟨himports, -⟩ := flatMap_bounds Line.tokens (by simp [Line.tokens])
    (ImportGroup.lines (f.imports.map fun i => ([.tab], i)))
  obtain ⟨hmethods, hmem⟩ := flatMap_bounds Line.tokens (by simp [Line.tokens])
    (f.methods.map InterfaceMethod.line)
  have hlen : (ImportGroup.lines (f.imports.map fun i => ([.tab], i))).length = f.imports.length := by
    simp [ImportGroup.lines]
  rw [List.length_map] at hmethods
  simp only [lines, List.flatMap_cons, List.flatMap_nil, Line.fileTokens, ImportGroup.line, targetLine,
    typeLine, methodLines, enclosed, List.length_append, List.length_cons] at hn
  refine ⟨by omega, by omega, fun m hm => ?_⟩
  have := hmem m.line (List.mem_map_of_mem hm)
  simp only [Line.tokens, InterfaceMethod.line, List.length_append, List.length_cons] at this
  omega

/-- **The source is parsed**, line by line. -/
theorem parse_text (f : InterfaceFile) : parse f.text = some (fileNode f.lines) := by
  refine parse_lines f.tokens_text rfl ?_
  obtain ⟨himports, hmethods, hmem⟩ := f.length_bounds rfl
  generalize (f.lines.flatMap Line.fileTokens).length = n at himports hmethods hmem
  have htype : (targetLine f.methods).IsRead (8 * n + 13 + 2) (8 * n + 15) item fileContext :=
    targetLine_isRead (fun m hm => Nat.le_trans (hmem m hm) (by omega)) (by omega)
  simp only [lines, List.forall_mem_cons, List.not_mem_nil, false_imp_iff, implies_true, and_true]
  refine ⟨packageLine_isRead (by simp) _, ?_, htype⟩
  exact ImportGroup.isRead (by simp [Token.isTrivia]) (by simp [Token.isTrivia]) (by simp; omega)

/-! ## What extraction finds -/

theorem isTrivia_lead (f : InterfaceFile) : ∀ l ∈ f.lines, ∀ t ∈ l.lead, t.isTrivia = true := by
  simp [lines, packageLine, ImportGroup.line, targetLine, typeLine, Token.isTrivia]

theorem packageName_lines (f : InterfaceFile) :
    packageName (fileNode f.lines) = some f.package.text := by
  rw [packageName_file f.isTrivia_lead]
  rfl

theorem imports_lines (f : InterfaceFile) :
    Go.imports (fileNode f.lines) = .ok (f.imports.map ImportLine.value) := by
  have hspecs : importSpecs (fileNode f.lines) = f.imports.map ImportLine.node := by
    rw [importSpecs_file f.isTrivia_lead]
    show specsOfDeclaration _ ++ [] = _
    rw [ImportGroup.specs_node (by simp [Token.isTrivia]), List.append_nil, List.map_map]
    rfl
  rw [Go.imports, hspecs, ImportGroup.importsOf_nodes]

theorem findType_lines (f : InterfaceFile) :
    findType targetName (fileNode f.lines) = some (targetNode f.methods) := by
  have hpackage : (packageLine [] f.package).node.preorder.find? (declaresType targetName) = none :=
    rfl
  have himports := ImportGroup.declaresType_line
    (g := f.imports.map fun i => ([.tab], i)) (by simp [Token.isTrivia]) targetName [.newline]
  have htype : (targetLine f.methods).node.preorder.find? (declaresType targetName) =
      some (targetNode f.methods) := rfl
  rw [findType_file f.isTrivia_lead (by simp [lines]; exact ⟨rfl, rfl, rfl⟩)]
  simp only [lines, List.findSome?_cons, hpackage, himports, htype]

theorem named_interfaceNode (methods : List InterfaceMethod) :
    ((interfaceNode methods).withRole .type).named = methods.map InterfaceMethod.node := by
  have hlines : ((methodLines methods).flatMap Line.nodes).filter Node.isNamed =
      (methods.map InterfaceMethod.node).filter Node.isNamed := by
    rw [methodLines, List.flatMap_map]
    exact filter_flatMap_single fun m _ => rfl
  have hnamed : ∀ n ∈ methods.map InterfaceMethod.node, n.isNamed = true := by
    rw [List.forall_mem_map]
    exact fun _ _ => rfl
  show List.filter _ ((methodLines methods).flatMap Line.nodes ++ [_, _]) = _
  rw [List.filter_append, hlines, List.filter_eq_self.2 hnamed]
  exact List.append_nil _

theorem methodsOf_targetNode (package : String) (methods : List InterfaceMethod) :
    methodsOf package (targetNode methods) = methods.map (InterfaceMethod.value · package) := by
  have hbody : bodyOf (targetNode methods) =
      .interface (elementsOf ((interfaceNode methods).withRole .type)) := rfl
  rw [methodsOf, hbody]
  show List.filterMap _ (List.filterMap _ (Node.named _)) = _
  rw [named_interfaceNode, List.filterMap_filterMap, List.filterMap_map]
  simp only [Function.comp_def, InterfaceMethod.method?_node]
  simp

end InterfaceFile

/-! ## Extraction -/

/-- Extraction succeeds where the package, the interface and the imports are found. -/
theorem extract_outcome {file spec : Node} {package : String} {is : List Import}
    (hp : packageName file = some package) (hs : findType targetName file = some spec)
    (hi : Go.imports file = .ok is) :
    (extract file).outcome = .ok ⟨"", "", package, mockName, is, methodsOf package spec⟩ := by
  have himports : importsIn file = .ok is := by simp [importsIn, hi]
  rw [extract_eq, hp]
  simp only [hs, himports]

/-- **Extraction recovers every interface.** The source of a package with any imports and methods is
parsed, and what extraction makes of it is the package, the imports and the methods, in order and
with one field for each name or nameless type. -/
theorem InterfaceFile.extract_recovers (f : InterfaceFile) :
    ∃ tree, parse f.text = some tree ∧ (extract tree).outcome = .ok {
      genPackage := "", modelPath := "", package := f.package.text, structName := "Mocker",
      imports := f.imports.map ImportLine.value,
      methods := f.methods.map (InterfaceMethod.value · f.package.text) } := by
  refine ⟨fileNode f.lines, f.parse_text, ?_⟩
  rw [extract_outcome f.packageName_lines f.findType_lines f.imports_lines,
    InterfaceFile.methodsOf_targetNode]
  rfl

end Understudy.Go
