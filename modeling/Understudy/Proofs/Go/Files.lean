import Understudy.Go.ImportSpec
import Understudy.Go.Declaration
import Understudy.Proofs.Go.Prototypes

/-!
# Reading files

A file is a row of items, each on lines of its own: a declaration, the comments and empty lines
before it, and the line end after it. What is looked up in a file depends on the declarations only.

* `separated_reads`: items in brackets, each on a line of its own.
* `parse_lines`: a row of items that are read by themselves is parsed.
* `packageName_file`, `importSpecs_file`, `findType_file`: what is found in a file.
* `packageLine_isRead`, `ImportGroup.isRead`, `typeLine_isRead`: the items that files here have.
-/

set_option autoImplicit false

namespace Understudy.Go

open Grammar Rule

/-! ## Lines -/

section
variable {levels turns : Nat} {ctx : Context} {r : GoRule} {ts rest : List Token} {ns : List Node}

/-- Blanks, comments and line ends in front. -/
theorem Grammar.Reads.leadAll (h : Reads levels turns r ctx ts ns rest)
    (hr : r.leads opensWithToken = true) : ∀ {front : List Token},
    (∀ t ∈ front, t.isTrivia = true) →
      Reads levels turns r ctx (front ++ ts) (front.map Token.toNode ++ ns) rest
  | [], _ => h
  | t :: front, hf =>
    (h.leadAll hr fun u hu => hf u (by simp [hu])).lead hr (hf t (by simp))

theorem Grammar.Reads.newline :
    Reads levels turns terminator ctx (.newline :: rest) [Token.newline.toNode] rest := rfl

/-- A line: what stands before its item, and the item. -/
structure Line where
  lead : List Token
  body : List Token
  node : Node

namespace Line

/-- The line with the line end that comes before it. -/
def tokens (l : Line) : List Token := .newline :: (l.lead ++ l.body)

def nodes (l : Line) : List Node := Token.newline.toNode :: (l.lead.map Token.toNode ++ [l.node])

/-- The item of the line is read as its node, up to the line end. -/
structure IsRead (levels turns : Nat) (r : GoRule) (ctx : Context) (l : Line) : Prop where
  lead : ∀ t ∈ l.lead, t.isTrivia = true
  body : ∀ rest, Reads levels turns r ctx (l.body ++ .newline :: rest) [l.node] (.newline :: rest)

theorem IsRead.reads {l : Line} (h : l.IsRead levels turns r ctx)
    (hr : r.leads opensWithToken = true) (rest : List Token) :
    Reads levels turns r ctx (l.lead ++ (l.body ++ .newline :: rest))
      (l.lead.map Token.toNode ++ [l.node]) (.newline :: rest) :=
  (h.body rest).leadAll hr h.lead

end Line

/-- A line end comes next. -/
inductive LineEnd : List Token → Prop
  | intro (rest : List Token) : LineEnd (.newline :: rest)

/-- **Items on lines of their own**, up to a symbol on a line after them. -/
theorem separated_reads {lines : List Line} {close : String}
    (hlines : ∀ l ∈ lines, l.IsRead levels turns r ctx) (hr : r.leads opensWithToken = true)
    (hclose : Refuses levels turns r ctx (.symbol close :: rest)) (hlen : lines.length ≤ turns) :
    Reads levels turns (seq (separated r) (sym close)) ctx
      (lines.flatMap Line.tokens ++ .newline :: .symbol close :: rest)
      (lines.flatMap Line.nodes ++ [Token.newline.toNode, .leaf none .mark close]) rest := by
  have hsym : Reads levels turns (sym close) ctx (.symbol close :: rest)
      [.leaf none .mark close] rest := Reads.sym close
  cases lines with
  | nil =>
    have hnone : Refuses levels turns r ctx (.newline :: .symbol close :: rest) :=
      hclose.lead hr rfl
    exact hnone.seq.opt.seq (hsym.lead rfl rfl)
  | cons l lines =>
    -- The first item is read by itself, and each later one after the line end before it.
    have hmore : Repeats levels turns turns (seq terminator r) ctx
        (lines.flatMap Line.tokens ++ .newline :: .symbol close :: rest)
        (lines.flatMap Line.nodes) (.newline :: .symbol close :: rest) := by
      refine .flatMap (fun m hm _ hrest => ?_) (fun m _ _ _ => LineEnd.intro _)
        (.intro _) (Reads.newline.seq_refuses hclose) (Nat.le_of_succ_le hlen)
      obtain ⟨rest⟩ := hrest
      rw [Line.tokens, List.cons_append, List.append_assoc]
      exact Reads.newline.seq ((hlines m (by simp [hm])).reads hr rest)
    have hfirst : Reads levels turns r ctx
        (l.tokens ++ (lines.flatMap Line.tokens ++ .newline :: .symbol close :: rest)) l.nodes
        (lines.flatMap Line.tokens ++ .newline :: .symbol close :: rest) := by
      obtain ⟨rest', hrest⟩ : ∃ rest',
          lines.flatMap Line.tokens ++ .newline :: .symbol close :: rest = .newline :: rest' := by
        cases lines with
        | nil => exact ⟨_, rfl⟩
        | cons m lines => exact ⟨_, rfl⟩
      rw [hrest, Line.tokens, List.cons_append, List.append_assoc]
      exact ((hlines l (by simp)).reads hr rest').lead hr rfl
    have hall : Reads levels turns (seq (separated r) (sym close)) ctx _ _ _ :=
      (hfirst.seq (hmore.many.seq Reads.newline.opt)).opt.seq hsym
    rw [List.flatMap_cons, List.append_assoc, List.flatMap_cons]
    simpa using hall

/-- Lines between the brackets `o` and `c`. -/
def enclosed (o c : String) (lines : List Line) : List Token :=
  .symbol o :: (lines.flatMap Line.tokens ++ [.newline, .symbol c])

def enclosedNodes (o c : String) (lines : List Line) : List Node :=
  .leaf none .mark o ::
    (lines.flatMap Line.nodes ++ [Token.newline.toNode, .leaf none .mark c])

theorem enclosed_reads {lines : List Line} {o c : String}
    (hlines : ∀ l ∈ lines, l.IsRead levels turns r
      { ctx with lines := true, brace := .literal, begins := false, switches := false })
    (hr : r.leads opensWithToken = true)
    (hclose : Refuses levels turns r
      { ctx with lines := true, brace := .literal, begins := false, switches := false }
      (.symbol c :: rest)) (hlen : lines.length ≤ turns) :
    Reads levels turns (all [sym o, byLine (separated r), sym c]) ctx
      (enclosed o c lines ++ rest) (enclosedNodes o c lines) rest := by
  have hinside : Reads levels turns (seq (byLine (separated r)) (sym c)) ctx
      (lines.flatMap Line.tokens ++ .newline :: .symbol c :: rest)
      (lines.flatMap Line.nodes ++ [Token.newline.toNode, .leaf none .mark c]) rest :=
    separated_reads hlines hr hclose hlen
  have hall : Reads levels turns (all [sym o, byLine (separated r), sym c]) ctx _ _ _ :=
    (Reads.sym o).seq hinside
  simpa [enclosed, enclosedNodes] using hall

end

/-! ## Texts of lines -/

theorem firstChar_lines (lines : List Line) (ts : List Token) (next : Option Char) :
    firstChar (lines.flatMap Line.tokens ++ .newline :: ts) next = some '\n' := by
  cases lines <;> rfl

/-- Lines that are separate by themselves are separate, since a line end stops them all. -/
theorem separate_lines {lines : List Line} {ts : List Token} {next : Option Char}
    (hlines : ∀ l ∈ lines, Separate (l.lead ++ l.body) (some '\n')) (hts : Separate ts next) :
    Separate (lines.flatMap Line.tokens ++ .newline :: ts) next := by
  induction lines with
  | nil => exact ⟨Token.endsBefore_newline _, hts⟩
  | cons l lines ih =>
    rw [List.flatMap_cons, List.append_assoc, separate_append, firstChar_lines]
    exact ⟨⟨Token.endsBefore_newline _, hlines l (by simp)⟩, ih fun m hm => hlines m (by simp [hm])⟩

theorem separate_enclosed {o c : String} {lines : List Line} {next : Option Char}
    (ho : (Token.symbol o).endsBefore (some '\n') = true)
    (hc : (Token.symbol c).endsBefore next = true)
    (hlines : ∀ l ∈ lines, Separate (l.lead ++ l.body) (some '\n')) :
    Separate (enclosed o c lines) next := by
  refine ⟨?_, separate_lines hlines ⟨hc, trivial⟩⟩
  rw [firstChar_lines]
  exact ho

/-! ## Whole files -/

/-- An item of a file. -/
def item : GoRule := alt fileDeclaration (phrase .statement)

namespace Line

/-- The line with the line end that comes after it. -/
def fileTokens (l : Line) : List Token := l.lead ++ l.body ++ [.newline]

theorem fileTokens_length_pos (l : Line) : 0 < l.fileTokens.length := by
  rw [fileTokens, List.length_append, List.length_singleton]
  omega

def fileNodes (l : Line) : List Node :=
  l.lead.map Token.toNode ++ [l.node, Token.newline.toNode]

end Line

theorem sourceFile_reads {levels : Nat} {lines : List Line}
    (hlines : ∀ l ∈ lines, l.IsRead (levels + 15) (levels + 15) item fileContext)
    (hlen : lines.length ≤ levels + 15) :
    Reads (levels + 15) (levels + 15) sourceFile fileContext (lines.flatMap Line.fileTokens)
      (lines.flatMap Line.fileNodes) [] := by
  have hmany : Repeats (levels + 15) (levels + 15) (levels + 15) (seq item terminator) fileContext
      (lines.flatMap Line.fileTokens ++ []) (lines.flatMap Line.fileNodes) [] := by
    refine .flatMap (fun l hl rest (_ : True) => ?_) (fun _ _ _ _ => trivial) trivial rfl hlen
    have h := ((hlines l hl).reads rfl rest).seq Reads.newline
    simpa [Line.fileTokens, Line.fileNodes] using h
  have hlast : Reads (levels + 15) (levels + 15) (opt (alt fileDeclaration valuedStatement))
      fileContext [] [] [] := rfl
  have hfinish : Reads (levels + 15) (levels + 15) finish fileContext [] [] [] := rfl
  have hall : Reads (levels + 15) (levels + 15) sourceFile fileContext _ _ _ :=
    hmany.many.seq (hlast.seq hfinish)
  simpa using hall

/-- The node of a file with the given lines. -/
def fileNode (lines : List Line) : Node := .tree none .sourceFile (lines.flatMap Line.fileNodes)

/-- **A file whose lines are read by themselves is parsed.** -/
theorem parse_lines {source : String} {lines : List Line} {n : Nat}
    (hts : tokens source = lines.flatMap Line.fileTokens)
    (hn : n = (lines.flatMap Line.fileTokens).length)
    (hlines : ∀ l ∈ lines, l.IsRead (8 * n + 15) (8 * n + 15) item fileContext) :
    parse source = some (fileNode lines) := by
  have hlen := (flatMap_bounds Line.fileTokens Line.fileTokens_length_pos lines).1
  exact parse_of_reads hts (by rw [← hn]; rfl) (sourceFile_reads hlines (by omega))

/-! ## What is found in a file -/

section
variable {lines : List Line}

theorem kind_toNode {t : Token} (ht : t.isTrivia = true) :
    t.toNode.kind = .comment ∨ t.toNode.kind = .space := by
  obtain ⟨kind, text⟩ := t
  cases kind <;> simp_all [Token.isTrivia, Token.toNode]

theorem filter_flatMap_single {α β : Type} {f : α → List β} {g : α → β} {p : β → Bool} {xs : List α}
    (h : ∀ x ∈ xs, (f x).filter p = [g x].filter p) :
    (xs.flatMap f).filter p = (xs.map g).filter p := by
  induction xs with
  | nil => rfl
  | cons x xs ih =>
    rw [List.flatMap_cons, List.filter_append, h x (by simp), ih fun y hy => h y (by simp [hy]),
      ← List.filter_append]
    rfl

/-- Trivia does not matter to a choice of nodes that leaves it out. -/
theorem filter_lead {l : Line} (hlead : ∀ t ∈ l.lead, t.isTrivia = true) {p : Node → Bool}
    (hp : ∀ n : Node, n.kind = .comment ∨ n.kind = .space → p n = false) :
    (l.lead.map Token.toNode).filter p = [] := by
  rw [List.filter_eq_nil_iff, List.forall_mem_map]
  exact fun t ht => by simp [hp _ (kind_toNode (hlead t ht))]

theorem filter_fileNodes (hlead : ∀ l ∈ lines, ∀ t ∈ l.lead, t.isTrivia = true) {p : Node → Bool}
    (hp : ∀ n : Node, n.kind = .comment ∨ n.kind = .space → p n = false) :
    (lines.flatMap Line.fileNodes).filter p = (lines.map Line.node).filter p := by
  apply filter_flatMap_single
  intro l hl
  have hnl : p Token.newline.toNode = false := hp _ (.inr rfl)
  rw [Line.fileNodes, List.filter_append, filter_lead (hlead l hl) hp, List.nil_append]
  cases hn : p l.node <;> simp [hn, hnl]

theorem filter_nodes (hlead : ∀ l ∈ lines, ∀ t ∈ l.lead, t.isTrivia = true) {p : Node → Bool}
    (hp : ∀ n : Node, n.kind = .comment ∨ n.kind = .space → p n = false) :
    (lines.flatMap Line.nodes).filter p = (lines.map Line.node).filter p := by
  apply filter_flatMap_single
  intro l hl
  have hnl : p Token.newline.toNode = false := hp _ (.inr rfl)
  rw [Line.nodes, List.filter_cons_of_neg (by simp [hnl]), List.filter_append,
    filter_lead (hlead l hl) hp, List.nil_append]

section
variable (hlead : ∀ l ∈ lines, ∀ t ∈ l.lead, t.isTrivia = true)
include hlead

/-- The declarations of one kind. -/
theorem filter_kind {k : Kind} (hc : k ≠ .comment) (hs : k ≠ .space) :
    (lines.flatMap Line.fileNodes).filter (fun n => n.kind = k) =
      (lines.map Line.node).filter (fun n => n.kind = k) :=
  filter_fileNodes hlead fun n hn => by rcases hn with hn | hn <;> simp [hn, hc.symm, hs.symm]

theorem packageName_file : packageName (fileNode lines) =
    ((lines.map Line.node).find? (fun n => n.kind = .packageClause)).bind clauseName := by
  rw [packageName, fileNode, Node.parts_tree, ← List.head?_filter,
    filter_kind hlead (by decide) (by decide), List.head?_filter]

theorem named_file {k : Kind} (hk : k.isNamed = true) (hc : k ≠ .comment) :
    (fileNode lines).named.filter (fun n => n.kind = k) =
      (lines.map Line.node).filter (fun n => n.kind = k) := by
  have hs : k ≠ .space := by rintro rfl; exact absurd hk (by decide)
  rw [← filter_kind hlead hc hs, Node.named, fileNode, Node.parts_tree, List.filter_filter]
  apply List.filter_congr
  intro n _
  by_cases hn : n.kind = k <;> simp [hn, Node.isNamed, hk]

theorem importSpecs_file : importSpecs (fileNode lines) =
    ((lines.map Line.node).filter (fun n => n.kind = .importDeclaration)).flatMap
      specsOfDeclaration := by
  rw [importSpecs, named_file hlead rfl (by decide)]

end

theorem preorderOfAll_append (ns ms : List Node) :
    Node.preorderOfAll (ns ++ ms) = Node.preorderOfAll ns ++ Node.preorderOfAll ms := by
  induction ns with
  | nil => rfl
  | cons n ns ih =>
    rw [List.cons_append, Node.preorderOfAll, Node.preorderOfAll, ih]
    split <;> simp

/-- Comments and blanks declare nothing. -/
theorem declaresType_trivia (name : String) {ts : List Token} (h : ∀ t ∈ ts, t.isTrivia = true) :
    (Node.preorderOfAll (ts.map Token.toNode)).find? (declaresType name) = none := by
  induction ts with
  | nil => rfl
  | cons t ts ih =>
    have hkind := kind_toNode (h t (by simp))
    have ht : t.toNode.preorder.find? (declaresType name) = none := by
      have hleaf : t.toNode.preorder = [t.toNode] := by
        unfold Token.toNode
        split <;> rfl
      rcases hkind with hk | hk <;> simp [hleaf, declaresType, hk]
    have hts := ih fun u hu => h u (by simp [hu])
    rw [List.map_cons, Node.preorderOfAll]
    split
    · rw [List.find?_append, ht, hts]
      rfl
    · exact hts

theorem find?_preorder {α : Type} {p : Node → Bool} {f : α → List Node} {g : α → Option Node}
    {xs : List α} (h : ∀ x ∈ xs, (Node.preorderOfAll (f x)).find? p = g x) :
    (Node.preorderOfAll (xs.flatMap f)).find? p = xs.findSome? g := by
  induction xs with
  | nil => rfl
  | cons x xs ih =>
    rw [List.flatMap_cons, preorderOfAll_append, List.find?_append, h x (by simp),
      ih fun y hy => h y (by simp [hy]), List.findSome?_cons]
    cases g x <;> rfl

/-- **The first declaration of a type** is looked for in one declaration after the other. -/
theorem findType_file (hlead : ∀ l ∈ lines, ∀ t ∈ l.lead, t.isTrivia = true)
    (hnamed : ∀ l ∈ lines, l.node.isNamed = true) (name : String) :
    findType name (fileNode lines) =
      lines.findSome? (fun l => l.node.preorder.find? (declaresType name)) := by
  apply find?_preorder
  intro l hl
  have hnode : Node.preorderOfAll [l.node, Token.newline.toNode] = l.node.preorder := by
    rw [Node.preorderOfAll, if_pos (hnamed l hl)]
    exact List.append_nil _
  rw [Line.fileNodes, preorderOfAll_append, hnode, List.find?_append,
    declaresType_trivia name (hlead l hl), Option.none_or]

end

/-! ## Package clauses -/

/-- The line of a package clause. -/
def packageLine (lead : List Token) (p : Name) : Line where
  lead
  body := [.word "package", .space, .word p.text]
  node := .tree none .packageClause [
    .leaf none .mark "package", .leaf none .space " ", .leaf none .packageIdentifier p.text]

theorem packageLine_separate (p : Name) {lead : List Token} {next : Option Char}
    (hlead : Separate lead (some 'p')) : Separate (packageLine lead p).fileTokens next := by
  rw [Line.fileTokens, List.append_assoc, separate_append]
  refine ⟨hlead, rfl, ?_⟩
  exact separate_append.2 ⟨p.freestanding.space rfl, Token.endsBefore_newline _, trivial⟩

theorem packageLine_isRead {levels turns : Nat} {ctx : Context} {lead : List Token}
    (hlead : ∀ t ∈ lead, t.isTrivia = true) (p : Name) :
    (packageLine lead p).IsRead levels turns item ctx := by
  refine ⟨hlead, fun rest => ?_⟩
  have hname : Reads levels turns (name .packageIdentifier) ctx
      (.space :: .word p.text :: .newline :: rest)
      [.leaf none .space " ", .leaf none .packageIdentifier p.text] (.newline :: rest) :=
    (Reads.name p.free _).lead rfl rfl
  exact (Reads.node rfl ((Reads.key "package").seq hname)).alt.alt

/-! ## Imports -/

/-- The name given to an imported package, if there is one. -/
inductive ImportName where
  | none
  | blank
  | dot
  | name (x : Name)

namespace ImportName

def text : ImportName → String
  | none => ""
  | blank => "_"
  | dot => "."
  | name x => x.text

/-- The tokens of the name and the blank after it. -/
def tokens : ImportName → List Token
  | none => []
  | blank => [.word "_", .space]
  | dot => [.symbol ".", .space]
  | name x => [.word x.text, .space]

def nodes : ImportName → List Node
  | none => []
  | blank => [.leaf (some .name) .packageIdentifier "_", .leaf Option.none .space " "]
  | dot => [.leaf (some .name) .dot ".", .leaf Option.none .space " "]
  | name x => [.leaf (some .name) .packageIdentifier x.text, .leaf Option.none .space " "]

end ImportName

/-- An import path that stands in quotes as it is. -/
structure ImportPath where
  text : String
  plain : text.toList.all Token.isPlain = true

/-- A path in quotes. -/
def quoted (s : String) : String := "\"" ++ s ++ "\""

theorem unescape_plain : ∀ {cs : List Char}, cs.all Token.isPlain = true →
    StringLiteral.unescape cs = .ok (cs.flatMap String.utf8EncodeChar)
  | [], _ => by simp [StringLiteral.unescape]
  | c :: cs, h => by
    simp only [List.all_cons, Bool.and_eq_true, Token.isPlain, bne_iff_ne, ne_eq] at h
    have he : StringLiteral.element c cs = .ok (String.utf8EncodeChar c, cs) := by
      simp [StringLiteral.element, h.1]
    rw [StringLiteral.unescape, he]
    simp only [unescape_plain h.2]
    rfl

/-- A path without quotes, backslashes and line ends means itself. -/
theorem unquote_quoted (p : ImportPath) : unquote (quoted p.text) = .ok p.text := by
  have htext : (quoted p.text).toList = '"' :: (p.text.toList ++ ['"']) := by simp [quoted]
  have hvalue : StringLiteral.interpretedValue p.text.toList = .ok p.text := by
    have hutf : String.fromUTF8? (p.text.toList.flatMap String.utf8EncodeChar).toByteArray =
        some (String.ofList p.text.toList) := dif_pos (String.ofList p.text.toList).isValidUTF8
    rw [StringLiteral.interpretedValue, unescape_plain p.plain]
    simp only [hutf, String.ofList_toList]
  simp [unquote, htext, hvalue]

/-- An import. -/
structure ImportLine where
  name : ImportName
  path : ImportPath

namespace ImportLine

def text (i : ImportLine) : String :=
  (match i.name with
    | .none => ""
    | x => x.text ++ " ") ++ quoted i.path.text

def tokens (i : ImportLine) : List Token := i.name.tokens ++ [⟨.string, quoted i.path.text⟩]

def node (i : ImportLine) : Node :=
  .tree none .importSpec
    (i.name.nodes ++ [.leaf (some .path) .stringLiteral (quoted i.path.text)])

/-- The import that the line declares. -/
def value (i : ImportLine) : Import := ⟨i.path.text, i.name.text⟩

theorem reads (i : ImportLine) {levels turns : Nat} {ctx : Context} {rest : List Token} :
    Reads levels turns importSpec ctx (i.tokens ++ rest) [i.node] rest := by
  obtain ⟨given, path⟩ := i
  have hpath : Reads levels turns (role .path stringP) ctx (⟨.string, quoted path.text⟩ :: rest)
      [.leaf (some .path) .stringLiteral (quoted path.text)] rest := rfl
  cases given with
  | none => rfl
  | blank => rfl
  | dot => rfl
  | name x =>
    have hdot : Refuses levels turns (token (fun _ t => t.isSymbol ".") .dot) ctx
        (.word x.text :: .space :: ⟨.string, quoted path.text⟩ :: rest) := rfl
    exact Reads.node rfl
      ((hdot.or_reads (Reads.name x.free _)).role.opt.seq (hpath.lead rfl rfl))

theorem spell_tokens (i : ImportLine) : spell i.tokens = i.text.toList := by
  obtain ⟨given, path⟩ := i
  cases given <;> simp [tokens, text, ImportName.tokens, ImportName.text]

theorem freestanding (i : ImportLine) : Freestanding i.tokens := by
  obtain ⟨given, path⟩ := i
  have hpath : Freestanding [⟨.string, quoted path.text⟩] := by
    refine ⟨⟨'"', by simp [quoted], rfl⟩, fun next _ => ⟨?_, trivial⟩⟩
    simp [Token.endsBefore, quoted, path.plain]
  cases given with
  | none => exact hpath
  | blank => exact ⟨⟨'_', rfl, rfl⟩, fun next hn => ⟨rfl, hpath.space hn⟩⟩
  | dot => exact ⟨⟨'.', rfl, rfl⟩, fun next hn => ⟨rfl, hpath.space hn⟩⟩
  | name x =>
    obtain ⟨c, cs, hx, hc, -⟩ := x.chars
    refine ⟨⟨c, by simp [tokens, ImportName.tokens, hx], (isAlpha_facts hc).1⟩, fun next hn => ?_⟩
    exact ⟨Token.endsBefore_name x rfl, hpath.space hn⟩

theorem importOf_node (i : ImportLine) : importOf i.node = .ok i.value := by
  have hpath : i.node.child? .path =
      some (.leaf (some .path) .stringLiteral (quoted i.path.text)) := by
    obtain ⟨given, path⟩ := i
    cases given <;> rfl
  have hname : ((i.node.child? .name).map Node.text).getD "" = i.name.text := by
    obtain ⟨given, path⟩ := i
    cases given <;> rfl
  rw [importOf, hpath]
  simp only [Node.text, unquote_quoted, hname]
  rfl

/-- The line of the import in a group. -/
def line (i : ImportLine) (lead : List Token) : Line := ⟨lead, i.tokens, i.node⟩

end ImportLine

/-- Imports with what stands before each of them. -/
abbrev ImportGroup := List (List Token × ImportLine)

namespace ImportGroup

def lines (g : ImportGroup) : List Line := g.map fun x => x.2.line x.1

/-- The node of the imports in their parentheses. -/
def list (g : ImportGroup) : Node := .tree none .importSpecList (enclosedNodes "(" ")" g.lines)

/-- The line of the whole group. -/
def line (g : ImportGroup) (lead : List Token) : Line where
  lead
  body := .word "import" :: .space :: enclosed "(" ")" g.lines
  node := .tree none .importDeclaration [.leaf none .mark "import", .leaf none .space " ", g.list]

section
variable {g : ImportGroup} (hg : ∀ x ∈ g, ∀ t ∈ x.1, t.isTrivia = true)
include hg

theorem list_reads {levels turns : Nat} {ctx : Context} {rest : List Token}
    (hlen : g.length ≤ turns) :
    Reads levels turns (alt importSpec (node .importSpecList (all [
      sym "(", byLine (separated importSpec), sym ")"]))) ctx
      (enclosed "(" ")" g.lines ++ rest) [g.list] rest := by
  have hlines : ∀ l ∈ g.lines, l.IsRead levels turns importSpec
      { ctx with lines := true, brace := .literal, begins := false, switches := false } := by
    rw [lines, List.forall_mem_map]
    exact fun x hx => ⟨hg x hx, fun rest => x.2.reads⟩
  have hspec : Refuses levels turns importSpec ctx (enclosed "(" ")" g.lines ++ rest) := rfl
  exact hspec.or_reads
    (Reads.node rfl (enclosed_reads hlines rfl rfl (by simpa [lines] using hlen)))

theorem isRead {lead : List Token} (hlead : ∀ t ∈ lead, t.isTrivia = true) {levels turns : Nat}
    {ctx : Context} (hlen : g.length ≤ turns) : (g.line lead).IsRead levels turns item ctx := by
  refine ⟨hlead, fun rest => ?_⟩
  have hpackage : Refuses levels turns packageClause ctx
      ((g.line lead).body ++ .newline :: rest) := rfl
  exact (hpackage.or_reads
    (Reads.node rfl ((Reads.key "import").seq ((list_reads hg hlen).lead rfl rfl))).alt).alt

omit hg in
theorem separate {lead : List Token} (hlead : Separate lead (some 'i'))
    (hg : ∀ x ∈ g, Separate (x.1 ++ x.2.tokens) (some '\n')) {next : Option Char} :
    Separate (g.line lead).fileTokens next := by
  have hlist : Separate (enclosed "(" ")" g.lines ++ [.newline]) next := by
    refine separate_append.2 ⟨separate_enclosed rfl rfl ?_, Token.endsBefore_newline _, trivial⟩
    rw [lines, List.forall_mem_map]
    exact hg
  rw [Line.fileTokens, List.append_assoc, separate_append]
  exact ⟨hlead, rfl, rfl, hlist⟩

theorem specs_node (lead : List Token) :
    specsOfDeclaration (g.line lead).node = g.map fun x => x.2.node := by
  have hlead : ∀ l ∈ g.lines, ∀ t ∈ l.lead, t.isTrivia = true := by
    rw [lines, List.forall_mem_map]
    exact hg
  have hkind : ∀ n ∈ g.lines.map Line.node, n.kind = .importSpec := by
    rw [lines, List.map_map, List.forall_mem_map]
    exact fun _ _ => rfl
  have hspecs : g.list.named.filter (fun n => n.kind = .importSpec) = g.lines.map Line.node := by
    rw [Node.named, list, Node.parts_tree, enclosedNodes, List.filter_filter,
      List.filter_cons_of_neg (by decide),
      List.filter_append, filter_nodes hlead (by rintro n (h | h) <;> simp [h]),
      List.filter_eq_self.2 fun n hn => by simp [hkind n hn, Node.isNamed, Kind.isNamed]]
    exact List.append_nil _
  have hdecl : specsOfDeclaration (g.line lead).node =
      g.list.named.filter (fun n => n.kind = .importSpec) := List.append_nil _
  rw [hdecl, hspecs, lines, List.map_map]
  rfl

/-- Imports declare no type. -/
theorem declaresType_line (name : String) (lead : List Token) :
    (g.line lead).node.preorder.find? (declaresType name) = none := by
  have hlines : (Node.preorderOfAll (g.lines.flatMap Line.nodes)).find? (declaresType name) =
      g.lines.findSome? fun _ => none := by
    apply find?_preorder
    rw [lines, List.forall_mem_map]
    rintro ⟨lead, given, path⟩ hx
    have hspec : (Node.preorderOfAll [ImportLine.node ⟨given, path⟩]).find?
        (declaresType name) = none := by
      cases given <;> rfl
    show (Node.preorderOfAll (lead.map Token.toNode ++ [ImportLine.node ⟨given, path⟩])).find? _ = _
    rw [preorderOfAll_append, List.find?_append, declaresType_trivia name (hg _ hx), hspec]
    rfl
  have hnone : g.lines.findSome? (fun _ => (none : Option Node)) = none := by simp
  show (Node.preorderOfAll (g.lines.flatMap Line.nodes ++ [_, _]) ++ []).find? _ = _
  rw [List.append_nil, preorderOfAll_append, List.find?_append, hlines, hnone]
  rfl

end

/-- **The imports of a group**, in order. -/
theorem importsOf_nodes : ∀ is : List ImportLine,
    importsOf (is.map ImportLine.node) = .ok (is.map ImportLine.value)
  | [] => rfl
  | i :: is => by simp [importsOf, i.importOf_node, importsOf_nodes is]

end ImportGroup

/-! ## Types -/

/-- The declaration of a type. -/
def typeSpecNode (x : Name) (type : Node) : Node :=
  .tree none .typeSpec [.leaf (some .name) .typeIdentifier x.text, .leaf none .space " ",
    type.withRole .type]

/-- The line of a type that is a keyword and lines in braces. -/
def typeLine (lead : List Token) (x : Name) (keyword : String) (lines : List Line) (type : Node) :
    Line where
  lead
  body := .word "type" :: .space :: .word x.text :: .space :: .word keyword :: .space ::
    enclosed "\x7b" "\x7d" lines
  node := .tree none .typeDeclaration [
    .leaf none .mark "type", .leaf none .space " ", typeSpecNode x type]

section
variable {levels turns : Nat} {lead : List Token} {x : Name} {keyword : String} {lines : List Line}
  {type : Node}

theorem typeLine_isRead (hlead : ∀ t ∈ lead, t.isTrivia = true) (hn : type.isTrivia = false)
    (htype : ∀ rest, Reads (levels + 1) (levels + 1) typeP fileContext
      (.word keyword :: .space :: (enclosed "\x7b" "\x7d" lines ++ rest)) [type] rest) :
    (typeLine lead x keyword lines type).IsRead (levels + 2) turns item fileContext := by
  refine ⟨hlead, fun rest => ?_⟩
  have hfile : Refuses (levels + 2) turns fileDeclaration fileContext
      ((typeLine lead x keyword lines type).body ++ .newline :: rest) := rfl
  have hbefore : Refuses (levels + 1) (levels + 1) (any [constDeclaration, varDeclaration])
      fileContext ((typeLine lead x keyword lines type).body ++ .newline :: rest) := rfl
  have halias : Refuses (levels + 1) (levels + 1)
      (node .typeAlias (all [role .name (name .typeIdentifier), sym "=", role .type typeP]))
      fileContext (.word x.text :: .space :: .word keyword :: .space ::
        (enclosed "\x7b" "\x7d" lines ++ .newline :: rest)) := rfl
  have hname : Reads (levels + 1) (levels + 1) (role .name (name .typeIdentifier)) fileContext
      (.word x.text :: .space :: .word keyword :: .space ::
        (enclosed "\x7b" "\x7d" lines ++ .newline :: rest))
      [.leaf (some .name) .typeIdentifier x.text] _ := (Reads.name x.free _).role
  have hspec : Reads (levels + 1) (levels + 1) typeSpec fileContext _ [typeSpecNode x type]
      (.newline :: rest) :=
    halias.or_reads (Reads.node rfl (hname.seq (((htype _).roleOf hn).lead rfl rfl))).alt
  have hdecl : Reads (levels + 1) (levels + 1) typeDeclaration fileContext
      ((typeLine lead x keyword lines type).body ++ .newline :: rest)
      [(typeLine lead x keyword lines type).node] (.newline :: rest) :=
    Reads.node rfl ((Reads.key "type").seq (hspec.alt.lead rfl rfl))
  exact hfile.or_reads (Reads.phrase (Refuses.any_reads hdecl hbefore))

theorem typeLine_separate (hlead : Separate lead (some 't'))
    (hkeyword : Separate [.space, .word keyword] (some ' '))
    (hlines : ∀ l ∈ lines, Separate (l.lead ++ l.body) (some '\n')) {next : Option Char} :
    Separate (typeLine lead x keyword lines type).fileTokens next := by
  have hbody : Separate (enclosed "\x7b" "\x7d" lines ++ [.newline]) next :=
    separate_append.2 ⟨separate_enclosed rfl rfl hlines, Token.endsBefore_newline _, trivial⟩
  have hname : Separate [.space, .word x.text] (some ' ') := x.freestanding.space rfl
  have hrest : Separate ([.space, .word keyword] ++
      .space :: (enclosed "\x7b" "\x7d" lines ++ [.newline])) next :=
    separate_append.2 ⟨hkeyword, rfl, hbody⟩
  have hall : Separate ([.space, .word x.text] ++ ([.space, .word keyword] ++
      .space :: (enclosed "\x7b" "\x7d" lines ++ [.newline]))) next :=
    separate_append.2 ⟨hname, hrest⟩
  rw [Line.fileTokens, List.append_assoc, separate_append]
  exact ⟨hlead, rfl, hall⟩

end

end Understudy.Go
