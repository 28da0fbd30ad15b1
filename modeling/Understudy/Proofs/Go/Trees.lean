import Mathlib.Logic.Relation
import Understudy.Proofs.Go.Prototypes

/-!
# What parsed trees look like

A rule by itself says much about the nodes that it makes: which kinds they can have, which parts are
always there, and what their tokens are. These are properties of derivations, and whether a rule
guarantees them can be computed from the rule.

* `Derives`: what a rule reads, without bounds on nesting and repetition; `derives_of_read`.
* `Rule.only`, `Rule.has`: every node that a rule makes passes a test, and some node does.
* `Node.Formed`: names are single words, roles are given to fitting nodes, and the parts that the
  grammar demands are there.
* `parse_formed`: every parsed tree is formed.
-/

set_option autoImplicit false

namespace Understudy.Go

/-! ## Derivations -/

/-- From `ts` the rule reads the nodes `ns` and leaves `rest`, however deep phrases nest. What is
only looked ahead at is not part of the derivation. -/
inductive Derives {P : Type} (grammar : P → Rule P) :
    Rule P → Context → List Token → List Node → List Token → Prop
  | done {ctx : Context} {ts : List Token} : Derives grammar .done ctx ts [] ts
  | token {accepts : Context → Token → Bool} {kind : Kind} {ctx : Context} {t : Token}
    {ts rest : List Token} (hts : ts.dropWhile Token.isTrivia = t :: rest)
    (ht : accepts ctx t = true) :
    Derives grammar (.token accepts kind) ctx ts
      ((takeTrivia ts).1 ++ [.leaf none kind t.text]) rest
  | terminator {ctx : Context} {t : Token} {ts rest : List Token}
    (hts : ts.dropWhile Token.isInline = t :: rest) :
    Derives grammar .terminator ctx ts ((takeNodes Token.isInline ts).1 ++ [t.toNode]) rest
  | finish {ctx : Context} {ts : List Token} : Derives grammar .finish ctx ts (takeTrivia ts).1 []
  | seq {first second : Rule P} {ctx : Context} {ts rest left : List Token} {ns more : List Node}
    (h1 : Derives grammar first ctx ts ns rest) (h2 : Derives grammar second ctx rest more left) :
    Derives grammar (.seq first second) ctx ts (ns ++ more) left
  | first {first second : Rule P} {ctx : Context} {ts rest : List Token} {ns : List Node}
    (h : Derives grammar first ctx ts ns rest) : Derives grammar (.alt first second) ctx ts ns rest
  | second {first second : Rule P} {ctx : Context} {ts rest : List Token} {ns : List Node}
    (h : Derives grammar second ctx ts ns rest) : Derives grammar (.alt first second) ctx ts ns rest
  | stop {r : Rule P} {ctx : Context} {ts : List Token} : Derives grammar (.many r) ctx ts [] ts
  | turn {r : Rule P} {ctx : Context} {ts rest left : List Token} {ns more : List Node}
    (h1 : Derives grammar r ctx ts ns rest) (h2 : Derives grammar (.many r) ctx rest more left) :
    Derives grammar (.many r) ctx ts (ns ++ more) left
  | absent {r : Rule P} {ctx : Context} {ts : List Token} : Derives grammar (.absent r) ctx ts [] ts
  | present {r : Rule P} {ctx : Context} {ts : List Token} :
    Derives grammar (.present r) ctx ts [] ts
  | near {r : Rule P} {ctx : Context} {ts rest : List Token} {ns : List Node}
    (h : Derives grammar r ctx ts ns rest) : Derives grammar (.near r) ctx ts ns rest
  | node {kind : Kind} {r : Rule P} {ctx : Context} {ts rest : List Token} {ns : List Node}
    (h : Derives grammar r ctx (takeTrivia ts).2 ns rest) :
    Derives grammar (.node kind r) ctx ts ((takeTrivia ts).1 ++ [.tree none kind ns]) rest
  | role {what : Role} {r : Rule P} {ctx : Context} {ts rest : List Token} {ns : List Node}
    (h : Derives grammar r ctx ts ns rest) :
    Derives grammar (.role what r) ctx ts (giveRole what ns) rest
  | within {change : Context → Context} {r : Rule P} {ctx : Context} {ts rest : List Token}
    {ns : List Node} (h : Derives grammar r (change ctx) ts ns rest) :
    Derives grammar (.within change r) ctx ts ns rest
  | when {test : Context → Bool} {r : Rule P} {ctx : Context} {ts rest : List Token}
    {ns : List Node} (h : Derives grammar r ctx ts ns rest) :
    Derives grammar (.when test r) ctx ts ns rest
  | phrase {p : P} {ctx : Context} {ts rest : List Token} {ns : List Node}
    (h : Derives grammar (grammar p) ctx ts ns rest) : Derives grammar (.phrase p) ctx ts ns rest

namespace Rule

variable {P : Type} {grammar : P → Rule P}

theorem derives_of_repeated {r : Rule P} {ctx : Context} {one : List Token → Reading}
    (hone : ∀ ts ns rest, one ts = some (ns, rest) → Derives grammar r ctx ts ns rest) :
    ∀ (turns : Nat) (ts : List Token),
      Derives grammar (many r) ctx ts (repeated one turns ts).1 (repeated one turns ts).2
  | 0, _ => .stop
  | turns + 1, ts => by
    rw [repeated_succ]
    cases h : one ts with
    | none => exact .stop
    | some reading => exact .turn (hone ts _ _ h) (derives_of_repeated hone turns reading.2)

/-- **What is read is derived**, if this is so of phrases. -/
theorem derives_of_run {again : Context → P → List Token → Reading}
    (hagain : ∀ ctx p ts ns rest, again ctx p ts = some (ns, rest) →
      Derives grammar (phrase p) ctx ts ns rest) (turns : Nat) :
    ∀ (r : Rule P) (ctx : Context) (ts : List Token) (ns : List Node) (rest : List Token),
      r.run again turns ctx ts = some (ns, rest) → Derives grammar r ctx ts ns rest
  | done, _, _, _, _, h => by cases h; exact .done
  | fail, _, _, _, _, h => by cases h
  | token accepts kind, ctx, ts, ns, rest, h => by
    rw [run_token] at h
    split at h
    · cases h
    · rename_i t left hts
      split at h
      · rename_i ht
        cases h
        exact .token hts ht
      · cases h
  | terminator, ctx, ts, ns, rest, h => by
    rw [run_terminator] at h
    split at h
    · cases h
    · rename_i t left hts
      split at h
      · cases h
        exact .terminator hts
      · cases h
  | finish, ctx, ts, ns, rest, h => by
    rw [run_finish] at h
    split at h
    · rename_i ms hts
      cases h
      have hns : ns = (takeTrivia ts).1 := by rw [hts]
      rw [hns]
      exact .finish
    · cases h
  | seq first second, ctx, ts, ns, rest, h => by
    rw [run_seq] at h
    split at h
    · cases h
    · rename_i ms mid h1
      split at h
      · cases h
      · rename_i more left h2
        cases h
        exact .seq (derives_of_run hagain turns first _ _ _ _ h1)
          (derives_of_run hagain turns second _ _ _ _ h2)
  | alt first second, ctx, ts, ns, rest, h => by
    rw [run_alt] at h
    split at h
    · rename_i reading h1
      cases h
      exact .first (derives_of_run hagain turns first _ _ _ _ h1)
    · exact .second (derives_of_run hagain turns second _ _ _ _ h)
  | many r, ctx, ts, ns, rest, h => by
    have hd := derives_of_repeated (derives_of_run hagain turns r ctx) turns ts
    rw [run_many, Option.some.injEq] at h
    rwa [h] at hd
  | absent r, ctx, ts, ns, rest, h => by
    rw [run_absent] at h
    split at h
    · cases h
    · cases h
      exact .absent
  | present r, ctx, ts, ns, rest, h => by
    rw [run_present] at h
    split at h
    · cases h
      exact .present
    · cases h
  | near r, ctx, ts, ns, rest, h => by
    rw [run_near] at h
    split at h
    · cases h
    · exact .near (derives_of_run hagain turns r _ _ _ _ h)
  | node kind r, ctx, ts, ns, rest, h => by
    rw [run_node] at h
    split at h
    · cases h
    · rename_i ms left h1
      cases h
      exact .node (derives_of_run hagain turns r _ _ _ _ h1)
  | role what r, ctx, ts, ns, rest, h => by
    rw [run_role] at h
    split at h
    · cases h
    · rename_i ms left h1
      cases h
      exact .role (derives_of_run hagain turns r _ _ _ _ h1)
  | within change r, ctx, ts, ns, rest, h => .within (derives_of_run hagain turns r _ _ _ _ h)
  | when test r, ctx, ts, ns, rest, h => by
    rw [run_when] at h
    split at h
    · exact .when (derives_of_run hagain turns r _ _ _ _ h)
    · cases h
  | phrase p, ctx, ts, ns, rest, h => hagain ctx p ts ns rest h

/-- **What a grammar reads is derived**, at any depth. -/
theorem derives_of_read : ∀ (levels : Nat) (ctx : Context) (p : P) (ts : List Token)
    (ns : List Node) (rest : List Token), Rule.read grammar levels ctx p ts = some (ns, rest) →
      Derives grammar (phrase p) ctx ts ns rest
  | 0, _, _, _, _, _, h => by cases h
  | levels + 1, ctx, p, ts, ns, rest, h =>
    .phrase (derives_of_run (derives_of_read levels) levels (grammar p) ctx ts ns rest h)

end Rule

/-! ## Trivia and tokens that are left -/

theorem takeNodes_fst (p : Token → Bool) : ∀ ts : List Token,
    (takeNodes p ts).1 = (ts.takeWhile p).map Token.toNode
  | [] => rfl
  | t :: ts => by
    rw [takeNodes, List.takeWhile_cons]
    split
    · rw [List.map_cons, ← takeNodes_fst p ts]
    · rfl

theorem Token.isTrivia_of_isInline {t : Token} (h : t.isInline = true) : t.isTrivia = true := by
  obtain ⟨kind, text⟩ := t
  cases kind <;> simp_all [isInline, isTrivia]

/-- The nodes of the trivia in front are trivia. -/
theorem isTrivia_of_mem_takeNodes {p : Token → Bool} (hp : ∀ t, p t = true → t.isTrivia = true)
    {ts : List Token} {n : Node} (hn : n ∈ (takeNodes p ts).1) :
    ∃ t : Token, t.isTrivia = true ∧ n = t.toNode := by
  rw [takeNodes_fst, List.mem_map] at hn
  obtain ⟨t, ht, rfl⟩ := hn
  exact ⟨t, hp t (List.all_eq_true.1 List.all_takeWhile t ht), rfl⟩

/-- **A derivation leaves tokens that were there.** -/
theorem Derives.subset {P : Type} {grammar : P → Rule P} {r : Rule P} {ctx : Context}
    {ts rest : List Token} {ns : List Node} (h : Derives grammar r ctx ts ns rest) : rest ⊆ ts := by
  induction h with
  | done | stop | absent | present => exact List.Subset.refl _
  | finish => exact List.nil_subset _
  | @token _ _ _ t ts rest hts _ =>
    have hsub := (List.dropWhile_suffix Token.isTrivia (l := ts)).subset
    rw [hts] at hsub
    exact List.Subset.trans (List.subset_cons_self t rest) hsub
  | @terminator _ t ts rest hts =>
    have hsub := (List.dropWhile_suffix Token.isInline (l := ts)).subset
    rw [hts] at hsub
    exact List.Subset.trans (List.subset_cons_self t rest) hsub
  | seq _ _ ih1 ih2 | turn _ _ ih1 ih2 => exact List.Subset.trans ih2 ih1
  | first _ ih | second _ ih | near _ ih | role _ ih | within _ ih | when _ ih | phrase _ ih =>
    exact ih
  | @node _ _ _ ts _ _ _ ih =>
    rw [takeTrivia, takeNodes_snd] at ih
    exact List.Subset.trans ih (List.dropWhile_suffix _).subset

/-! ## What a rule guarantees -/

/-- A test of a node by its role and kind. -/
abbrev PartTest := Option Role → Kind → Bool

namespace Rule

variable {P : Type}

/-- Whether all nodes that the rule makes pass the test, trivia apart, where `phrases` says it of
phrases. -/
def only (phrases : P → PartTest → Bool) : Rule P → PartTest → Bool
  | done, _ | fail, _ | finish, _ | absent _, _ | present _, _ => true
  | token _ kind, test | node kind _, test => test none kind
  | terminator, test => test none .mark
  | seq first second, test | alt first second, test =>
    first.only phrases test && second.only phrases test
  | many r, test | near r, test | within _ r, test | when _ r, test => r.only phrases test
  | role what r, test => r.only phrases (fun _ kind => test (some what) kind)
  | phrase p, test => phrases p test

/-- Whether the rule always makes a node that passes the test, where `phrases` says it of
phrases. -/
def has (phrases : P → PartTest → Bool) : Rule P → PartTest → Bool
  | fail, _ => true
  | token _ kind, test | node kind _, test => test none kind
  | seq first second, test => first.has phrases test || second.has phrases test
  | alt first second, test => first.has phrases test && second.has phrases test
  | near r, test | within _ r, test | when _ r, test => r.has phrases test
  | role what r, test => r.has phrases (fun _ kind => !kind.isTrivia && test (some what) kind)
  | phrase p, test => phrases p test
  | _, _ => false

/-- `only` of the phrases of a grammar, looking through `depth` of them. -/
def onlyAt (grammar : P → Rule P) : (depth : Nat) → P → PartTest → Bool
  | 0, _, _ => false
  | depth + 1, p, test => (grammar p).only (onlyAt grammar depth) test

/-- `has` of the phrases of a grammar, looking through `depth` of them. -/
def hasAt (grammar : P → Rule P) : (depth : Nat) → P → PartTest → Bool
  | 0, _, _ => false
  | depth + 1, p, test => (grammar p).has (hasAt grammar depth) test

end Rule

theorem mem_giveRole {what : Role} {ns : List Node} {n : Node} (h : n ∈ giveRole what ns) :
    n ∈ ns ∧ n.isTrivia = true ∨ ∃ m ∈ ns, m.isTrivia = false ∧ n = m.withRole what := by
  rw [giveRole, List.mem_map] at h
  obtain ⟨m, hm, rfl⟩ := h
  cases ht : m.isTrivia with
  | true => exact .inl ⟨by simpa using hm, by simpa using ht⟩
  | false => exact .inr ⟨m, hm, ht, by simp⟩

section
variable {P : Type} {grammar : P → Rule P} {r : Rule P} {ctx : Context} {ts rest : List Token}
  {ns : List Node}

open Rule

/-- **A test that all nodes of a rule pass** is passed by the nodes of its derivations. -/
theorem Derives.only (h : Derives grammar r ctx ts ns rest) {depth : Nat} {test : PartTest}
    (hr : r.only (onlyAt grammar depth) test = true) :
    ∀ n ∈ ns, n.isTrivia = true ∨ test n.role n.kind = true := by
  have hlead : ∀ {ts : List Token} {n : Node}, n ∈ (takeTrivia ts).1 → n.isTrivia = true := by
    intro ts n hn
    obtain ⟨t, ht, rfl⟩ := isTrivia_of_mem_takeNodes (fun _ h => h) hn
    exact isTrivia_toNode ht
  induction h generalizing depth test with
  | done | stop | absent | present => simp
  | finish => exact fun n hn => .inl (hlead hn)
  | token _ _ =>
    intro n hn
    rcases List.mem_append.1 hn with hn | hn
    · exact .inl (hlead hn)
    · rw [List.mem_singleton.1 hn]
      exact .inr hr
  | @terminator _ t _ _ _ =>
    intro n hn
    rcases List.mem_append.1 hn with hn | hn
    · obtain ⟨t, ht, rfl⟩ := isTrivia_of_mem_takeNodes (fun _ => Token.isTrivia_of_isInline) hn
      exact .inl (isTrivia_toNode ht)
    · rw [List.mem_singleton.1 hn]
      obtain ⟨kind, text⟩ := t
      cases kind <;> first | exact .inl rfl | exact .inr hr
  | seq _ _ ih1 ih2 =>
    simp only [Rule.only, Bool.and_eq_true] at hr
    intro n hn
    rcases List.mem_append.1 hn with hn | hn
    · exact ih1 hr.1 n hn
    · exact ih2 hr.2 n hn
  | turn _ _ ih1 ih2 =>
    intro n hn
    rcases List.mem_append.1 hn with hn | hn
    · exact ih1 hr n hn
    · exact ih2 hr n hn
  | first _ ih =>
    simp only [Rule.only, Bool.and_eq_true] at hr
    exact ih hr.1
  | second _ ih =>
    simp only [Rule.only, Bool.and_eq_true] at hr
    exact ih hr.2
  | near _ ih | within _ ih | when _ ih => exact ih hr
  | node _ _ =>
    intro n hn
    rcases List.mem_append.1 hn with hn | hn
    · exact .inl (hlead hn)
    · rw [List.mem_singleton.1 hn]
      exact .inr hr
  | role _ ih =>
    intro n hn
    obtain ⟨_, ht⟩ | ⟨m, hm, ht, rfl⟩ := mem_giveRole hn
    · exact .inl ht
    · have hm := (ih hr m hm).resolve_left (by simp [ht])
      exact .inr (by simpa using hm)
  | phrase _ ih =>
    cases depth with
    | zero => cases hr
    | succ depth => exact ih hr

/-- **A test that some node of a rule passes** is passed in every one of its derivations. -/
theorem Derives.has (h : Derives grammar r ctx ts ns rest) {depth : Nat} {test : PartTest}
    (hr : r.has (hasAt grammar depth) test = true) : ∃ n ∈ ns, test n.role n.kind = true := by
  induction h generalizing depth test with
  | done | stop | absent | present | finish | terminator _ | turn _ _ => cases hr
  | token _ _ | node _ _ => exact ⟨_, List.mem_append_right _ (List.mem_singleton_self _), hr⟩
  | seq _ _ ih1 ih2 =>
    simp only [Rule.has, Bool.or_eq_true] at hr
    rcases hr with hr | hr
    · obtain ⟨n, hn, ht⟩ := ih1 hr
      exact ⟨n, List.mem_append_left _ hn, ht⟩
    · obtain ⟨n, hn, ht⟩ := ih2 hr
      exact ⟨n, List.mem_append_right _ hn, ht⟩
  | first _ ih =>
    simp only [Rule.has, Bool.and_eq_true] at hr
    exact ih hr.1
  | second _ ih =>
    simp only [Rule.has, Bool.and_eq_true] at hr
    exact ih hr.2
  | near _ ih | within _ ih | when _ ih => exact ih hr
  | @role what _ _ _ _ _ _ ih =>
    obtain ⟨n, hn, ht⟩ := ih hr
    simp only [Bool.and_eq_true, Bool.not_eq_true'] at ht
    refine ⟨n.withRole what, List.mem_map.2 ⟨n, hn, ?_⟩, by simpa using ht.2⟩
    rw [if_neg (by simpa [Node.isTrivia] using ht.1)]
  | phrase _ ih =>
    cases depth with
    | zero => cases hr
    | succ depth => exact ih hr

end

/-! ## Formed trees -/

namespace Kind

/-- Whether a node of the kind is a single token. -/
def isToken : Kind → Bool
  | dot | stringLiteral | rawStringLiteral | typeIdentifier | packageIdentifier | identifier
  | literal | comment | mark | space => true
  | _ => false

/-- Whether a node of the kind is a name. -/
def isName : Kind → Bool
  | typeIdentifier | packageIdentifier | identifier => true
  | _ => false

/-- Whether a node of the kind can have the role. -/
def fits (kind : Kind) : Option Role → Bool
  | none => true
  | some .name => kind.isName || kind == dot
  | some .package => kind == packageIdentifier
  | some .path => kind == stringLiteral || kind == rawStringLiteral
  | some _ => kind.isNamed && !kind.isTrivia

/-- Whether nodes of the kind make up imports. -/
def isOfImports : Kind → Bool
  | importDeclaration | importSpecList | importSpec => true
  | _ => false

/-- Whether a node of the kind can have a part of the second kind: imports stand only in their
declarations, and these and package clauses only directly in a file; in imports there are but
tokens beside. -/
def admits (kind : Kind) : Kind → Bool
  | sourceFile => false
  | packageClause | importDeclaration => kind == sourceFile
  | importSpecList => kind == importDeclaration
  | importSpec => kind == importDeclaration || kind == importSpecList
  | part => part.isToken || !kind.isOfImports

/-- The parts that a node of the kind always has, one for each test. -/
def needs : Kind → List PartTest
  | packageClause => [fun _ kind => kind == packageIdentifier]
  | importSpec => [fun role _ => role == some .path]
  | qualifiedType => [fun role _ => role == some .package, fun role _ => role == some .name]
  | sliceType | arrayType => [fun role _ => role == some .element]
  | pointerType => [fun _ kind => kind.isNamed && kind != comment]
  | parameterDeclaration => [fun role _ => role == some .type]
  | methodElem => [fun role _ => role == some .name, fun role _ => role == some .parameters]
  | typeSpec | typeAlias => [fun role _ => role == some .name, fun role _ => role == some .type]
  | _ => []

end Kind

/-- Whether the text is a name. -/
def isIdentifier (text : String) : Bool :=
  match text.toList with
  | [] => false
  | c :: cs => Text.isNameStart c && cs.all Text.isNameChar

/-- Whether a token of the given text can be a leaf of the kind. -/
def Kind.reads (kind : Kind) (text : String) : Bool :=
  (!kind.isName || isIdentifier text) && (kind != .dot || text == ".")

/-- A tree as the grammar makes it: leaves are tokens that their kinds allow, roles fit, and every
node has parts that its kind admits and all that it needs. -/
inductive Node.Formed : Node → Prop
  | leaf {role : Option Role} {kind : Kind} {text : String} (hkind : kind.isToken = true)
    (hrole : kind.fits role = true) (htext : kind.reads text = true) :
    Formed (.leaf role kind text)
  | tree {role : Option Role} {kind : Kind} {parts : List Node} (hkind : kind.isToken = false)
    (hrole : kind.fits role = true)
    (hneeds : ∀ test ∈ kind.needs, ∃ n ∈ parts, test n.role n.kind = true)
    (hadmits : ∀ n ∈ parts, kind.admits n.kind = true) (hparts : ∀ n ∈ parts, Formed n) :
    Formed (.tree role kind parts)

namespace Rule

variable {P : Type}

/-- Whether the rule makes only formed nodes, texts of leaves apart, looking through phrases up to
`depth`. -/
def forms (grammar : P → Rule P) (depth : Nat) : Rule P → Bool
  | done | fail | terminator | finish | absent _ | present _ | phrase _ => true
  | token _ kind => kind.isToken && !kind.isTrivia
  | seq first second | alt first second =>
    first.forms grammar depth && second.forms grammar depth
  | many r | near r | within _ r | when _ r => r.forms grammar depth
  | role what r =>
    r.only (onlyAt grammar depth) (fun _ kind => kind.fits (some what)) && r.forms grammar depth
  | node kind r =>
    !kind.isToken && kind.needs.all (r.has (hasAt grammar depth)) &&
      r.only (onlyAt grammar depth) (fun _ part => kind.admits part) && r.forms grammar depth

/-- Whether the tokens that a test accepts can be leaves of the kind: names are words, and dots are
dots. -/
def Spells (accepts : Context → Token → Bool) : Kind → Prop
  | .typeIdentifier | .packageIdentifier | .identifier =>
    ∀ ctx t, accepts ctx t = true → t.kind = .word
  | .dot => ∀ ctx t, accepts ctx t = true → t.text = "."
  | _ => True

/-- The rule takes no other tokens for names than words. -/
def Names : Rule P → Prop
  | token accepts kind => Spells accepts kind
  | seq first second | alt first second => first.Names ∧ second.Names
  | many r | near r | node _ r | role _ r | within _ r | when _ r => r.Names
  | done | fail | terminator | finish | absent _ | present _ | phrase _ => True

end Rule

/-- If the token is a word, it is a name. -/
def Token.Lexed (t : Token) : Prop := t.kind = .word → isIdentifier t.text = true

theorem Rule.Spells.reads {accepts : Context → Token → Bool} {kind : Kind} {ctx : Context}
    {t : Token} (h : Spells accepts kind) (ht : accepts ctx t = true) (hl : t.Lexed) :
    kind.reads t.text = true := by
  cases kind with
  | typeIdentifier | packageIdentifier | identifier =>
    simpa [Kind.reads, Kind.isName] using hl (h ctx t ht)
  | dot => simpa [Kind.reads, Kind.isName] using h ctx t ht
  | _ => rfl

namespace Node

theorem Formed.toNode (t : Token) : t.toNode.Formed := by
  obtain ⟨kind, text⟩ := t
  cases kind <;> exact .leaf rfl rfl rfl

theorem Formed.withRole {n : Node} {what : Role} (h : n.Formed)
    (hrole : n.kind.fits (some what) = true) : (n.withRole what).Formed := by
  cases h with
  | leaf hkind _ htext => exact .leaf hkind hrole htext
  | tree hkind _ hneeds hadmits hparts => exact .tree hkind hrole hneeds hadmits hparts

end Node

theorem Kind.admits_trivia {kind part : Kind} (h : part.isTrivia = true) :
    kind.admits part = true := by
  cases part <;> first | rfl | cases h

theorem Kind.needs_of_isToken {kind : Kind} (h : kind.isToken = true) : kind.needs = [] := by
  cases kind <;> first | rfl | cases h

/-- **Derivations make formed nodes**, if all rules of the grammar do and words are names. -/
theorem Derives.formed {P : Type} {grammar : P → Rule P} {depth : Nat}
    (hforms : ∀ p, (grammar p).forms grammar depth = true) (hnames : ∀ p, (grammar p).Names)
    {r : Rule P} {ctx : Context} {ts rest : List Token} {ns : List Node}
    (h : Derives grammar r ctx ts ns rest) (hr : r.forms grammar depth = true) (hn : r.Names)
    (hts : ∀ t ∈ ts, t.Lexed) : ∀ n ∈ ns, n.Formed := by
  -- A rule that starts a node leaves the trivia before it as leaves of their own.
  have hlead : ∀ {p : Token → Bool} {ts : List Token}, ∀ n ∈ (takeNodes p ts).1, n.Formed := by
    intro p ts n hn
    rw [takeNodes_fst, List.mem_map] at hn
    obtain ⟨t, _, rfl⟩ := hn
    exact .toNode t
  induction h with
  | done | stop | absent | present => simp
  | finish => exact hlead
  | @token accepts kind ctx t ts rest hdrop ht =>
    have hmem : t ∈ ts := (List.dropWhile_suffix Token.isTrivia).subset (by simp [hdrop])
    simp only [Rule.forms, Bool.and_eq_true] at hr
    have hreads := hn.reads ht (hts t hmem)
    intro n hn
    rcases List.mem_append.1 hn with hn | hn
    · exact hlead n hn
    · rw [List.mem_singleton.1 hn]
      exact .leaf hr.1 rfl hreads
  | terminator _ =>
    intro n hn
    rcases List.mem_append.1 hn with hn | hn
    · exact hlead n hn
    · rw [List.mem_singleton.1 hn]
      exact .toNode _
  | seq h1 _ ih1 ih2 =>
    simp only [Rule.forms, Bool.and_eq_true] at hr
    intro n hmem
    rcases List.mem_append.1 hmem with hmem | hmem
    · exact ih1 hr.1 hn.1 hts n hmem
    · exact ih2 hr.2 hn.2 (fun t ht => hts t (h1.subset ht)) n hmem
  | turn h1 _ ih1 ih2 =>
    intro n hmem
    rcases List.mem_append.1 hmem with hmem | hmem
    · exact ih1 hr hn hts n hmem
    · exact ih2 hr hn (fun t ht => hts t (h1.subset ht)) n hmem
  | first _ ih =>
    simp only [Rule.forms, Bool.and_eq_true] at hr
    exact ih hr.1 hn.1 hts
  | second _ ih =>
    simp only [Rule.forms, Bool.and_eq_true] at hr
    exact ih hr.2 hn.2 hts
  | near _ ih | within _ ih | when _ ih => exact ih hr hn hts
  | @node kind r ctx ts rest ns h1 ih =>
    simp only [Rule.forms, Bool.and_eq_true, Bool.not_eq_true', List.all_eq_true] at hr
    obtain ⟨⟨⟨hkind, hneeds⟩, honly⟩, hforms⟩ := hr
    have hstart : (takeTrivia ts).2 ⊆ ts := by
      rw [takeTrivia, takeNodes_snd]
      exact (List.dropWhile_suffix _).subset
    have hadmits : ∀ n ∈ ns, kind.admits n.kind = true := fun n hmem =>
      (h1.only honly n hmem).elim Kind.admits_trivia id
    intro n hmem
    rcases List.mem_append.1 hmem with hmem | hmem
    · exact hlead n hmem
    · rw [List.mem_singleton.1 hmem]
      exact .tree hkind rfl (fun test ht => h1.has (hneeds test ht)) hadmits
        (ih hforms hn fun t ht => hts t (hstart ht))
  | @role what r ctx ts rest ns h1 ih =>
    simp only [Rule.forms, Bool.and_eq_true] at hr
    intro n hmem
    obtain ⟨hsame, _⟩ | ⟨m, hm, htrivia, rfl⟩ := mem_giveRole hmem
    · exact ih hr.2 hn hts n hsame
    · -- Trivia is never given a role, so the kind is one that the rule can make.
      refine (ih hr.2 hn hts m hm).withRole ?_
      exact (h1.only hr.1 m hm).resolve_left (by simp [htrivia])
  | phrase _ ih => exact ih (hforms _) (hnames _) hts

/-! ## Parsed trees -/

namespace Grammar

open Rule

theorem kind_of_word {reserved : List String} {t : Token}
    (h : (t.kind == .word && !reserved.contains t.text) = true) : t.kind = .word :=
  eq_of_beq (Bool.and_eq_true_iff.1 h).1

theorem kind_of_allocation {t : Token} (h : (t.isWord "new" || t.isWord "make") = true) :
    t.kind = .word := by
  simp only [Token.isWord, Bool.or_eq_true, Bool.and_eq_true, beq_iff_eq] at h
  exact h.elim And.left And.left

theorem text_of_dot {t : Token} (h : t.isSymbol "." = true) : t.text = "." :=
  eq_of_beq (Bool.and_eq_true_iff.1 h).2

/-- The Go grammar takes only words for names. -/
theorem rules_names (p : Phrase) : (rules p).Names := by
  cases p <;> repeat' first
    | refine And.intro ?_ ?_
    | exact trivial
    | exact fun _ _ h => kind_of_word h
    | exact fun _ _ h => text_of_dot h
    | exact fun _ _ h => kind_of_allocation h

/-- The Go grammar makes formed nodes. -/
theorem rules_forms (p : Phrase) : (rules p).forms rules 3 = true := by
  cases p <;> rfl

end Grammar

theorem Token.take_runLength {p : Char → Bool} :
    ∀ cs : List Char, (cs.take (runLength p cs)).all p = true
  | [] => rfl
  | c :: cs => by
    rw [runLength]
    split
    · rename_i hc
      rw [List.take_succ_cons, List.all_cons, hc, Token.take_runLength cs]
      rfl
    · rfl

/-- A word extends over the characters of a name. -/
theorem Token.extent_eq_word {c : Char} {cs : List Char} (h : (extent c cs).1 = .word) :
    Text.isNameStart c = true ∧ (extent c cs).2 = runLength Text.isNameChar cs := by
  unfold extent at h ⊢
  split at h
  · cases h
  · split at h
    · cases h
    · split at h
      · rename_i hnl hblank hstart
        simp [hnl, hblank, hstart]
      · -- No other branch makes a word.
        split at h
        · cases h
        · repeat' first | cases h | split at h

theorem tokensFrom_cons (c : Char) (cs : List Char) : tokensFrom (c :: cs) =
    ⟨(Token.extent c cs).1, String.ofList (c :: cs.take (Token.extent c cs).2)⟩ ::
      tokensFrom (cs.drop (Token.extent c cs).2) := by
  rw [tokensFrom]

theorem tokensFrom_lexed (cs : List Char) : ∀ t ∈ tokensFrom cs, t.Lexed := by
  match cs with
  | [] => simp [tokensFrom]
  | c :: cs =>
    intro t ht
    rw [tokensFrom_cons] at ht
    rcases List.mem_cons.1 ht with ht | ht
    · subst ht
      intro hword
      obtain ⟨hstart, hlen⟩ := Token.extent_eq_word hword
      have hall : (cs.take (Token.extent c cs).2).all Text.isNameChar = true := by
        rw [hlen]
        exact Token.take_runLength cs
      rw [isIdentifier, String.toList_ofList]
      simp only [hstart, hall, Bool.and_self]
    · exact tokensFrom_lexed _ t ht
termination_by cs.length
decreasing_by simp only [List.length_drop, List.length_cons]; omega

/-- **The words of a source text are names.** -/
theorem tokens_lexed (source : String) : ∀ t ∈ tokens source, t.Lexed := by
  unfold tokens
  split
  · simp
  · split
    · intro t ht
      rcases List.mem_cons.1 ht with rfl | ht
      · intro hword
        cases hword
      · exact tokensFrom_lexed _ t ht
    · exact tokensFrom_lexed _

/-- A parsed tree is derived from the tokens of its source. -/
theorem derives_of_parse {source : String} {file : Node} (h : parse source = some file) :
    ∃ items rest, file = .tree none .sourceFile items ∧ Derives Grammar.rules (.phrase .sourceFile)
      Grammar.fileContext (tokens source) items rest := by
  unfold parse at h
  generalize hts : tokens source = ts at h
  generalize hlevels : nestingBound ts.length = levels at h
  cases hread : Rule.read Grammar.rules levels Grammar.fileContext .sourceFile ts with
  | none => simp [hlevels, hread] at h
  | some reading =>
    simp only [hlevels, hread, Option.some.injEq] at h
    exact ⟨reading.1, reading.2, h.symm, Rule.derives_of_read _ _ _ _ _ _ hread⟩

/-- **Every parsed tree is formed.** -/
theorem parse_formed {source : String} {file : Node} (h : parse source = some file) :
    file.Formed := by
  obtain ⟨items, rest, rfl, hderives⟩ := derives_of_parse h
  have hparts : ∀ n ∈ items, n.Formed :=
    hderives.formed Grammar.rules_forms Grammar.rules_names rfl trivial (tokens_lexed source)
  have honly : (Rule.phrase Phrase.sourceFile).only (Rule.onlyAt Grammar.rules 4)
      (fun _ kind => Kind.sourceFile.admits kind) = true := rfl
  exact .tree rfl rfl (by simp [Kind.needs])
    (fun n hn => (hderives.only honly n hn).elim Kind.admits_trivia id) hparts

/-! ## Parts of formed trees -/

namespace Node

/-- Induction over a tree, from the parts to the whole. -/
@[elab_as_elim]
theorem induct {motive : Node → Prop} (leaf : ∀ r k t, motive (.leaf r k t))
    (tree : ∀ r k ps, (∀ p ∈ ps, motive p) → motive (.tree r k ps)) : ∀ n, motive n
  | .leaf r k t => leaf r k t
  | .tree r k ps => tree r k ps fun p _ => Node.induct leaf tree p

/-- The named descendants of neighbouring nodes. -/
theorem preorderOfAll_eq (ps : List Node) :
    preorderOfAll ps = (ps.filter isNamed).flatMap preorder := by
  induction ps with
  | nil => rfl
  | cons p ps ih =>
    rw [preorderOfAll, ih, List.filter_cons]
    split <;> simp

theorem preorder_eq (n : Node) : n.preorder = n :: n.named.flatMap preorder := by
  cases n with
  | leaf r k t => rfl
  | tree r k ps => rw [preorder, preorderOfAll_eq]; rfl

/-- `m` stands in `n`, at any depth of named nodes. -/
def HasDescendant (n m : Node) : Prop := Relation.TransGen (fun a b => b ∈ a.named) n m

/-- **The nodes in preorder** are the node and its named descendants. -/
theorem mem_preorder {n m : Node} : m ∈ n.preorder ↔ m = n ∨ n.HasDescendant m := by
  rw [HasDescendant, ← Relation.reflTransGen_iff_eq_or_transGen]
  constructor
  · induction n using Node.induct with
    | leaf r k t =>
      intro h
      rw [List.mem_singleton.1 h]
    | tree r k ps ih =>
      intro h
      rw [preorder_eq, List.mem_cons, List.mem_flatMap] at h
      rcases h with rfl | ⟨p, hp, hm⟩
      · exact .refl
      · exact .head hp (ih p (List.mem_filter.1 hp).1 hm)
  · intro h
    induction h using Relation.ReflTransGen.head_induction_on with
    | refl => rw [preorder_eq]; exact List.mem_cons_self
    | head hstep _ ih =>
      rw [preorder_eq]
      exact List.mem_cons_of_mem _ (List.mem_flatMap.2 ⟨_, hstep, ih⟩)

theorem mem_parts_of_named {n m : Node} (h : m ∈ n.named) : m ∈ n.parts := (List.mem_filter.1 h).1

theorem child?_eq_some {n m : Node} {role : Role} (h : n.child? role = some m) :
    m ∈ n.parts ∧ m.role = some role :=
  ⟨List.mem_of_find?_eq_some h, by simpa using List.find?_some h⟩

namespace Formed

variable {n m : Node}

theorem part (h : n.Formed) (hm : m ∈ n.parts) : m.Formed := by
  cases h with
  | leaf => cases hm
  | tree _ _ _ _ hparts => exact hparts m hm

theorem fits (h : n.Formed) : n.kind.fits n.role = true := by
  cases h with
  | leaf _ hrole _ => exact hrole
  | tree _ hrole _ _ _ => exact hrole

theorem admits (h : n.Formed) (hm : m ∈ n.parts) : n.kind.admits m.kind = true := by
  cases h with
  | leaf => cases hm
  | tree _ _ _ hadmits _ => exact hadmits m hm

/-- The part that a test of the kind asks for. -/
theorem need (h : n.Formed) {kind : Kind} (hk : n.kind = kind) {test : PartTest}
    (ht : test ∈ kind.needs) : ∃ m ∈ n.parts, test m.role m.kind = true := by
  subst hk
  cases h with
  | leaf hkind _ _ =>
    rw [kind_leaf, Kind.needs_of_isToken hkind] at ht
    cases ht
  | tree _ _ hneeds _ _ => exact hneeds test ht

/-- A part in a role that the kind demands. -/
theorem exists_child (h : n.Formed) {kind : Kind} (hk : n.kind = kind) {role : Role}
    (ht : (fun r _ => r == some role) ∈ kind.needs) : ∃ m, n.child? role = some m := by
  obtain ⟨m, hm, hrole⟩ := h.need hk ht
  exact Option.isSome_iff_exists.1 (List.find?_isSome.2 ⟨m, hm, hrole⟩)

theorem child? (h : n.Formed) {role : Role} (hm : n.child? role = some m) : m.Formed :=
  h.part (child?_eq_some hm).1

theorem descendant (h : n.Formed) (hm : n.HasDescendant m) : m.Formed := by
  induction hm with
  | single hm => exact h.part (mem_parts_of_named hm)
  | tail _ hm ih => exact ih.part (mem_parts_of_named hm)

theorem preorder (h : n.Formed) (hm : m ∈ n.preorder) : m.Formed := by
  rcases mem_preorder.1 hm with rfl | hm
  · exact h
  · exact h.descendant hm

/-- A single token is a leaf. -/
theorem leaf_of_isToken (h : n.Formed) (hk : n.kind.isToken = true) :
    ∃ text, n = .leaf n.role n.kind text ∧ n.kind.reads text = true := by
  cases h with
  | leaf _ _ htext => exact ⟨_, rfl, htext⟩
  | tree hkind => exact absurd hk (by simpa using hkind)

end Formed

end Node

/-- What has a role is named, and no comment. -/
theorem Kind.isNamed_of_fits {kind : Kind} {role : Role} (h : kind.fits (some role) = true) :
    kind.isNamed = true ∧ kind ≠ .comment := by
  constructor
  · cases kind <;> first | rfl | cases role <;> cases h
  · rintro rfl
    cases role <;> cases h

/-- Names, packages and paths are single tokens. -/
theorem Kind.isToken_of_fits {kind : Kind} {role : Role}
    (hr : role = .name ∨ role = .package ∨ role = .path) (h : kind.fits (some role) = true) :
    kind.isToken = true := by
  rcases hr with rfl | rfl | rfl <;> cases kind <;> first | rfl | cases h

end Understudy.Go
