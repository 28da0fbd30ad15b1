import Mathlib.Data.List.Forall2
import Understudy.Proofs.Go.Reading

/-!
# Names do not matter to the grammar

Which names a source text uses, and what its strings and comments say, has no influence on whether
and how far it is read. Two tokens are alike if no rule can tell them apart: they are of one kind,
and equal if they are symbols or reserved words.

* `run_like`: on tokens alike a rule leaves tokens alike, or matches on neither.
* `rules_uniform`: the Go grammar tests tokens in no other way.
* `Refuses.like`: what a rule refuses with one name it refuses with any other. That it refuses fixed
  tokens can be evaluated.
-/

set_option autoImplicit false

namespace Understudy.Go

/-- The words with a meaning of their own: the keywords, the predeclared constants, and the words
that allocate. -/
def reservedWords : List String := [
  "break", "case", "chan", "const", "continue", "default", "defer", "else", "fallthrough", "for",
  "func", "go", "goto", "if", "import", "interface", "map", "package", "range", "return", "select",
  "struct", "switch", "type", "var", "nil", "true", "false", "iota", "new", "make"]

/-- The tokens are of one kind, and equal where the kind is not enough to know them by. -/
structure Token.Like (t u : Token) : Prop where
  kind : t.kind = u.kind
  symbol : t.kind = .symbol → t.text = u.text
  word : t.kind = .word → t.text = u.text ∨ t.text ∉ reservedWords ∧ u.text ∉ reservedWords

namespace Token.Like

variable {t u : Token}

theorem refl (t : Token) : t.Like t := ⟨rfl, fun _ => rfl, fun _ => .inl rfl⟩

/-- Two words that are not reserved. -/
theorem words {x y : String} (hx : x ∉ reservedWords) (hy : y ∉ reservedWords) :
    Token.Like ⟨.word, x⟩ ⟨.word, y⟩ := ⟨rfl, nofun, fun _ => .inr ⟨hx, hy⟩⟩

theorem isTrivia_eq (h : t.Like u) : t.isTrivia = u.isTrivia := by simp [isTrivia, h.kind]

theorem isInline_eq (h : t.Like u) : t.isInline = u.isInline := by simp [isInline, h.kind]

theorem isNewline_eq (h : t.Like u) : t.isNewline = u.isNewline := by simp [isNewline, h.kind]

/-- A test of symbols. -/
theorem symbol_test (h : t.Like u) (p : String → Bool) :
    (t.kind == .symbol && p t.text) = (u.kind == .symbol && p u.text) := by
  by_cases hk : t.kind = .symbol
  · rw [h.symbol hk, h.kind]
  · rw [beq_false_of_ne hk, beq_false_of_ne (h.kind ▸ hk), Bool.false_and, Bool.false_and]

/-- A test of words that looks for reserved words only. -/
theorem word_test (h : t.Like u) (p : String → Bool)
    (hp : ∀ x y, x ∉ reservedWords → y ∉ reservedWords → p x = p y) :
    (t.kind == .word && p t.text) = (u.kind == .word && p u.text) := by
  by_cases hk : t.kind = .word
  · rcases h.word hk with he | ⟨ht, hu⟩
    · rw [he, h.kind]
    · rw [h.kind, hp _ _ ht hu]
  · rw [beq_false_of_ne hk, beq_false_of_ne (h.kind ▸ hk), Bool.false_and, Bool.false_and]

theorem isTerminator_eq (h : t.Like u) : t.isTerminator = u.isTerminator := by
  unfold isTerminator isSymbol
  rw [h.isNewline_eq, h.symbol_test (· == ";"), h.kind]

end Token.Like

/-- Tokens alike, one by one. -/
abbrev Alike : List Token → List Token → Prop := List.Forall₂ Token.Like

theorem Alike.refl : ∀ ts : List Token, Alike ts ts
  | [] => .nil
  | t :: ts => .cons (.refl t) (Alike.refl ts)

theorem Alike.dropWhile {p : Token → Bool} (hp : ∀ t u, Token.Like t u → p t = p u) :
    ∀ {ts us : List Token}, Alike ts us → Alike (ts.dropWhile p) (us.dropWhile p)
  | [], [], _ => .nil
  | t :: ts, u :: us, .cons h hs => by
    rw [List.dropWhile_cons, List.dropWhile_cons, hp t u h]
    split
    · exact Alike.dropWhile hp hs
    · exact .cons h hs

theorem endsLine_like {ts us : List Token} (h : Alike ts us) : endsLine ts = endsLine us := by
  unfold endsLine
  have hd := h.dropWhile fun _ _ h => h.isInline_eq
  generalize ts.dropWhile Token.isInline = ts', us.dropWhile Token.isInline = us' at hd
  cases hd with
  | nil => rfl
  | cons h _ => simp [h.isNewline_eq]

/-- What is left after trivia. -/
theorem takeNodes_snd (p : Token → Bool) : ∀ ts : List Token,
    (takeNodes p ts).2 = ts.dropWhile p
  | [] => rfl
  | t :: ts => by
    rw [takeNodes, List.dropWhile_cons]
    split
    · exact takeNodes_snd p ts
    · rfl

theorem takeTrivia_like {ts us : List Token} (h : Alike ts us) :
    Alike (takeTrivia ts).2 (takeTrivia us).2 := by
  rw [takeTrivia, takeTrivia, takeNodes_snd, takeNodes_snd]
  exact h.dropWhile fun _ _ h => h.isTrivia_eq

/-- Neither is a match, or both are and what is left is alike. -/
inductive SameEnd : Reading → Reading → Prop
  | refused : SameEnd none none
  | read {ns ms : List Node} {rest left : List Token} :
      Alike rest left → SameEnd (some (ns, rest)) (some (ms, left))

namespace Rule

variable {P : Type}

/-- The rule treats tokens alike in the same way. -/
def Uniform : Rule P → Prop
  | token accepts _ => ∀ ctx t u, Token.Like t u → accepts ctx t = accepts ctx u
  | seq first second | alt first second => first.Uniform ∧ second.Uniform
  | many r | absent r | present r | near r | node _ r | role _ r | within _ r | when _ r => r.Uniform
  | done | fail | terminator | finish | phrase _ => True

theorem repeated_like {one : List Token → Reading}
    (hone : ∀ ts us, Alike ts us → SameEnd (one ts) (one us)) :
    ∀ (turns : Nat) {ts us : List Token}, Alike ts us →
      Alike (repeated one turns ts).2 (repeated one turns us).2
  | 0, _, _, h => h
  | turns + 1, ts, us, h => by
    rw [repeated_succ, repeated_succ]
    have hs := hone ts us h
    generalize one ts = x, one us = y at hs
    cases hs with
    | refused => exact h
    | read hr => exact repeated_like hone turns hr

/-- **On tokens alike a rule leaves tokens alike**, if phrases do. -/
theorem run_like {again : Context → P → List Token → Reading}
    (hagain : ∀ ctx p ts us, Alike ts us → SameEnd (again ctx p ts) (again ctx p us))
    (turns : Nat) : ∀ (r : Rule P), r.Uniform → ∀ ctx ts us, Alike ts us →
      SameEnd (r.run again turns ctx ts) (r.run again turns ctx us)
  | done, _, _, _, _, h => .read h
  | fail, _, _, _, _, _ => .refused
  | token accepts kind, hu, ctx, ts, us, h => by
    rw [run_token, run_token]
    have hd := h.dropWhile fun _ _ h => h.isTrivia_eq
    generalize ts.dropWhile Token.isTrivia = ts', us.dropWhile Token.isTrivia = us' at hd
    cases hd with
    | nil => exact .refused
    | cons h hs =>
      simp only [hu ctx _ _ h]
      split
      · exact .read hs
      · exact .refused
  | terminator, _, ctx, ts, us, h => by
    rw [run_terminator, run_terminator]
    have hd := h.dropWhile fun _ _ h => h.isInline_eq
    generalize ts.dropWhile Token.isInline = ts', us.dropWhile Token.isInline = us' at hd
    cases hd with
    | nil => exact .refused
    | cons h hs =>
      simp only [h.isTerminator_eq]
      split
      · exact .read hs
      · exact .refused
  | finish, _, ctx, ts, us, h => by
    rw [run_finish, run_finish]
    have ht := takeTrivia_like h
    generalize takeTrivia ts = x, takeTrivia us = y at ht
    obtain ⟨ns, rest⟩ := x
    obtain ⟨ms, left⟩ := y
    cases ht with
    | nil => exact .read .nil
    | cons _ _ => exact .refused
  | seq first second, hu, ctx, ts, us, h => by
    rw [run_seq, run_seq]
    have h1 := run_like hagain turns first hu.1 ctx ts us h
    generalize first.run again turns ctx ts = x, first.run again turns ctx us = y at h1
    cases h1 with
    | refused => exact .refused
    | @read _ _ rest left hr =>
      have h2 := run_like hagain turns second hu.2 ctx rest left hr
      simp only
      generalize second.run again turns ctx rest = x, second.run again turns ctx left = y at h2
      cases h2 with
      | refused => exact .refused
      | read hl => exact .read hl
  | alt first second, hu, ctx, ts, us, h => by
    rw [run_alt, run_alt]
    have h1 := run_like hagain turns first hu.1 ctx ts us h
    generalize first.run again turns ctx ts = x, first.run again turns ctx us = y at h1
    cases h1 with
    | refused => exact run_like hagain turns second hu.2 ctx ts us h
    | read hr => exact .read hr
  | many r, hu, ctx, ts, us, h =>
    .read (repeated_like (run_like hagain turns r hu ctx) turns h)
  | absent r, hu, ctx, ts, us, h => by
    rw [run_absent, run_absent]
    have h1 := run_like hagain turns r hu ctx ts us h
    generalize r.run again turns ctx ts = x, r.run again turns ctx us = y at h1
    cases h1 with
    | refused => exact .read h
    | read _ => exact .refused
  | present r, hu, ctx, ts, us, h => by
    rw [run_present, run_present]
    have h1 := run_like hagain turns r hu ctx ts us h
    generalize r.run again turns ctx ts = x, r.run again turns ctx us = y at h1
    cases h1 with
    | refused => exact .refused
    | read _ => exact .read h
  | near r, hu, ctx, ts, us, h => by
    rw [run_near, run_near, endsLine_like h]
    split
    · exact .refused
    · exact run_like hagain turns r hu ctx ts us h
  | node kind r, hu, ctx, ts, us, h => by
    rw [run_node, run_node]
    have h1 := run_like hagain turns r hu ctx _ _ (takeTrivia_like h)
    generalize r.run again turns ctx (takeTrivia ts).2 = x,
      r.run again turns ctx (takeTrivia us).2 = y at h1
    cases h1 with
    | refused => exact .refused
    | read hr => exact .read hr
  | role _ r, hu, ctx, ts, us, h => by
    rw [run_role, run_role]
    have h1 := run_like hagain turns r hu ctx ts us h
    generalize r.run again turns ctx ts = x, r.run again turns ctx us = y at h1
    cases h1 with
    | refused => exact .refused
    | read hr => exact .read hr
  | within change r, hu, ctx, ts, us, h => run_like hagain turns r hu (change ctx) ts us h
  | when test r, hu, ctx, ts, us, h => by
    rw [run_when, run_when]
    split
    · exact run_like hagain turns r hu ctx ts us h
    · exact .refused
  | phrase p, _, ctx, ts, us, h => hagain ctx p ts us h

/-! ## Rules that look for reserved words and symbols only -/

@[simp] theorem uniform_done : (done : Rule P).Uniform := trivial

@[simp] theorem uniform_terminator : (terminator : Rule P).Uniform := trivial

@[simp] theorem uniform_finish : (finish : Rule P).Uniform := trivial

@[simp] theorem uniform_phrase (p : P) : (phrase p).Uniform := trivial

section
variable {r first second : Rule P}

@[simp] theorem uniform_seq : (seq first second).Uniform ↔ first.Uniform ∧ second.Uniform := .rfl

@[simp] theorem uniform_alt : (alt first second).Uniform ↔ first.Uniform ∧ second.Uniform := .rfl

@[simp] theorem uniform_many : (many r).Uniform ↔ r.Uniform := .rfl

@[simp] theorem uniform_absent : (absent r).Uniform ↔ r.Uniform := .rfl

@[simp] theorem uniform_present : (present r).Uniform ↔ r.Uniform := .rfl

@[simp] theorem uniform_near : (near r).Uniform ↔ r.Uniform := .rfl

@[simp] theorem uniform_node {kind : Kind} : (node kind r).Uniform ↔ r.Uniform := .rfl

@[simp] theorem uniform_role {what : Role} : (role what r).Uniform ↔ r.Uniform := .rfl

@[simp] theorem uniform_within {change : Context → Context} :
    (within change r).Uniform ↔ r.Uniform := .rfl

@[simp] theorem uniform_when {test : Context → Bool} : (when test r).Uniform ↔ r.Uniform := .rfl

@[simp] theorem uniform_opt : (opt r).Uniform ↔ r.Uniform := and_iff_left trivial

@[simp] theorem uniform_list :
    (list r).Uniform ↔ r.Uniform ∧ (sym "," : Rule P).Uniform ∧ r.Uniform := .rfl

@[simp] theorem uniform_openList :
    (openList r).Uniform ↔ r.Uniform ∧ (sym "," : Rule P).Uniform ∧ r.Uniform := .rfl

@[simp] theorem uniform_some1 : (some1 r).Uniform ↔ r.Uniform := and_self_iff

@[simp] theorem uniform_terminated : (terminated r).Uniform ↔ r.Uniform := and_iff_left trivial

@[simp] theorem uniform_separated : (separated r).Uniform ↔ r.Uniform :=
  ⟨fun h => h.1.1, fun h => ⟨⟨h, ⟨trivial, h⟩, trivial, trivial⟩, trivial⟩⟩

end

@[simp] theorem uniform_all : ∀ rs : List (Rule P), (all rs).Uniform ↔ ∀ r ∈ rs, r.Uniform
  | [] => by simp [all]
  | [r] => by simp [all]
  | r :: s :: rs => by
    rw [List.forall_mem_cons, ← uniform_all (s :: rs)]
    rfl

@[simp] theorem uniform_any : ∀ rs : List (Rule P), (any rs).Uniform ↔ ∀ r ∈ rs, r.Uniform
  | [] => by simp [any, Uniform]
  | [r] => by simp [any]
  | r :: s :: rs => by
    rw [List.forall_mem_cons, ← uniform_any (s :: rs)]
    rfl

@[simp] theorem uniform_sym (s : String) : (sym s : Rule P).Uniform :=
  fun _ _ _ h => h.symbol_test (· == s)

@[simp] theorem uniform_symIn (ss : List String) : (symIn ss : Rule P).Uniform :=
  fun _ _ _ h => h.symbol_test ss.contains

@[simp] theorem uniform_literal (kind : TokenKind) (leaf : Kind) :
    (literal kind leaf : Rule P).Uniform :=
  fun _ t u h => by
    show (t.kind == kind) = (u.kind == kind)
    rw [h.kind]

/-- A test that a word is one of some reserved words. -/
theorem contains_reserved {ws : List String} (hws : ws ⊆ reservedWords) {x y : String}
    (hx : x ∉ reservedWords) (hy : y ∉ reservedWords) : ws.contains x = ws.contains y := by
  have hn : ∀ z, z ∉ reservedWords → ws.contains z = false := fun z hz => by
    simpa using fun hm => hz (hws hm)
  rw [hn x hx, hn y hy]

theorem beq_reserved {s : String} (hs : s ∈ reservedWords) {x y : String}
    (hx : x ∉ reservedWords) (hy : y ∉ reservedWords) : (x == s) = (y == s) := by
  have hn : ∀ z, z ∉ reservedWords → (z == s) = false := fun z hz =>
    beq_false_of_ne fun he => hz (he ▸ hs)
  rw [hn x hx, hn y hy]

@[simp] theorem uniform_key {s : String} (hs : s ∈ reservedWords) : (key s : Rule P).Uniform :=
  fun _ _ _ h => h.word_test (· == s) fun _ _ => beq_reserved hs

@[simp] theorem uniform_word {ws : List String} (hws : ws ⊆ reservedWords) (kind : Kind) :
    (word ws kind : Rule P).Uniform :=
  fun _ _ _ h => h.word_test (fun x => !ws.contains x) fun _ _ hx hy => by
    rw [contains_reserved hws hx hy]

end Rule

namespace Grammar

open Rule

@[simp] theorem uniform_placeWord : placeWord.Uniform :=
  fun ctx _ _ h => h.word_test (placeWords ctx.place).contains fun x y hx hy =>
    contains_reserved (by cases ctx.place <;> decide) hx hy

@[simp] theorem uniform_closingWord : Rule.Uniform (P := Phrase) (token
    (fun ctx t => t.kind == .word && (closingWords ctx.place).contains t.text) .mark) :=
  fun ctx _ _ h => h.word_test (closingWords ctx.place).contains fun x y hx hy =>
    contains_reserved (by cases ctx.place <;> decide) hx hy

@[simp] theorem uniform_dot : Rule.Uniform (P := Phrase) (token (fun _ t => t.isSymbol ".") .dot) :=
  fun _ _ _ h => h.symbol_test (· == ".")

@[simp] theorem uniform_binaryOperator : binaryOperator.Uniform :=
  fun ctx _ _ h => h.symbol_test fun x =>
    binaryOperators.contains x || (!ctx.begins && statementOperators.contains x)

@[simp] theorem uniform_literalOperand : literalOperand.Uniform := by
  intro ctx t u h
  have hw := h.word_test (["nil", "true", "false", "iota"].contains ·)
    fun x y hx hy => contains_reserved (by decide) hx hy
  have hk := h.kind
  obtain ⟨kind, text⟩ := t
  obtain ⟨kind', text'⟩ := u
  obtain rfl : kind = kind' := hk
  cases kind <;> first | rfl | simpa using hw

@[simp] theorem uniform_allocationWord : Rule.Uniform (P := Phrase) (token
    (fun _ t => t.isWord "new" || t.isWord "make") .identifier) :=
  fun _ t u h => by
    show (t.isWord "new" || t.isWord "make") = (u.isWord "new" || u.isWord "make")
    unfold Token.isWord
    rw [h.word_test (· == "new") fun _ _ => beq_reserved (by decide),
      h.word_test (· == "make") fun _ _ => beq_reserved (by decide)]

/-! ## The grammar, part by part -/

section
variable {r follows : GoRule}

@[simp] theorem uniform_inside : (inside r).Uniform ↔ r.Uniform := .rfl

@[simp] theorem uniform_byLine : (byLine r).Uniform ↔ r.Uniform := .rfl

@[simp] theorem uniform_inBlock : (inBlock r).Uniform ↔ r.Uniform := .rfl

@[simp] theorem uniform_inClause : (inClause r).Uniform ↔ r.Uniform := .rfl

@[simp] theorem uniform_beginning : (beginning r).Uniform ↔ r.Uniform := .rfl

@[simp] theorem uniform_following : (following r).Uniform ↔ r.Uniform := .rfl

@[simp] theorem uniform_beforeBlock : (beforeBlock r).Uniform ↔ r.Uniform := .rfl

@[simp] theorem uniform_subject : (subject r).Uniform ↔ r.Uniform := .rfl

@[simp] theorem uniform_header : (header r follows).Uniform ↔ r.Uniform ∧ follows.Uniform :=
  and_self_iff

end

@[simp] theorem uniform_typeP : typeP.Uniform := trivial

@[simp] theorem uniform_expressionP : expressionP.Uniform := trivial

@[simp] theorem uniform_blockP : blockP.Uniform := trivial

@[simp] theorem uniform_parametersP : parametersP.Uniform := trivial

@[simp] theorem uniform_stringP : stringP.Uniform := ⟨uniform_literal _ _, uniform_literal _ _⟩

@[simp] theorem uniform_name (kind : Kind) : (name kind).Uniform :=
  uniform_word (List.nil_subset _) kind

@[simp] theorem uniform_typeWord (kind : Kind) : (word typeWords kind : GoRule).Uniform :=
  uniform_word (by decide +kernel) kind

@[simp] theorem uniform_operandWord (kind : Kind) : (word operandWords kind : GoRule).Uniform :=
  uniform_word (by decide +kernel) kind

/-! ### Types -/

@[simp] theorem uniform_typeName : typeName.Uniform := uniform_typeWord _

@[simp] theorem uniform_qualifiedType : qualifiedType.Uniform := by simp [qualifiedType]

@[simp] theorem uniform_typeUnion : typeUnion.Uniform := by simp [typeUnion]

@[simp] theorem uniform_typeElem : typeElem.Uniform := uniform_typeUnion

@[simp] theorem uniform_typeArguments : typeArguments.Uniform := by simp [typeArguments]

@[simp] theorem uniform_instanceOf {r : GoRule} : (instanceOf r).Uniform ↔ r.Uniform :=
  and_iff_left uniform_typeArguments

@[simp] theorem uniform_namedType : namedType.Uniform := by simp [namedType]

@[simp] theorem uniform_pointerType : pointerType.Uniform := by simp [pointerType]

@[simp] theorem uniform_sliceType : sliceType.Uniform := by simp [sliceType]

@[simp] theorem uniform_arrayType : arrayType.Uniform := by simp [arrayType]

@[simp] theorem uniform_implicitLengthArrayType : implicitLengthArrayType.Uniform := by
  simp [implicitLengthArrayType]

@[simp] theorem uniform_mapType : mapType.Uniform := by
  simp (disch := decide) [mapType]

@[simp] theorem uniform_channelType : channelType.Uniform := by
  simp (disch := decide) [channelType]

@[simp] theorem uniform_result : result.Uniform := ⟨trivial, trivial⟩

@[simp] theorem uniform_functionType : functionType.Uniform := by
  simp (disch := decide) [functionType]

@[simp] theorem uniform_negatedType : negatedType.Uniform := by simp [negatedType]

@[simp] theorem uniform_parenthesizedType : parenthesizedType.Uniform := by
  simp [parenthesizedType]

@[simp] theorem uniform_structType : structType.Uniform := by
  simp (disch := decide) [structType, fieldDeclaration, fieldEnd]

@[simp] theorem uniform_interfaceType : interfaceType.Uniform := by
  simp (disch := decide) [interfaceType, methodElem]

@[simp] theorem uniform_simpleType : simpleType.Uniform := by simp [simpleType]

@[simp] theorem uniform_parameterList : parameterList.Uniform := by
  simp [parameterList, variadicParameter, namedParameters, unnamedParameter, parameterEnd]

@[simp] theorem uniform_typeParameterList : typeParameterList.Uniform := by
  simp [typeParameterList, typeParameterDeclaration]

/-! ### Expressions -/

@[simp] theorem uniform_conversionArgument : conversionArgument.Uniform := by
  simp [conversionArgument]

@[simp] theorem uniform_operand : operand.Uniform := by
  simp (disch := decide) [operand, allocation, funcLiteral, namedLiteral, typeOperand]

@[simp] theorem uniform_suffix : suffix.Uniform := by
  simp (disch := decide) [suffix, selection, argumentList, argument, bracketed, bounds]

theorem uniform_expression : expression.Uniform := by simp [expression, operandPhrase]

theorem uniform_literalValue : literalValue.Uniform := by simp [literalValue, literalElement]

/-! ### Statements -/

@[simp] theorem uniform_expressions : expressions.Uniform := by simp [expressions]

@[simp] theorem uniform_values : values.Uniform := by simp [values]

@[simp] theorem uniform_grouped {r : GoRule} : (grouped r).Uniform ↔ r.Uniform := by
  simp [grouped]

@[simp] theorem uniform_constDeclaration : constDeclaration.Uniform := by
  simp (disch := decide) [constDeclaration, constSpec]

@[simp] theorem uniform_varDeclaration : varDeclaration.Uniform := by
  simp (disch := decide) [varDeclaration, varSpec]

@[simp] theorem uniform_typeDeclaration : typeDeclaration.Uniform := by
  simp (disch := decide) [typeDeclaration, typeSpec]

@[simp] theorem uniform_moreTargets : moreTargets.Uniform := by simp [moreTargets]

@[simp] theorem uniform_valuedTail : valuedTail.Uniform := by simp [valuedTail, assignment]

@[simp] theorem uniform_simpleTail : simpleTail.Uniform := by simp [simpleTail]

@[simp] theorem uniform_simpleStatement : simpleStatement.Uniform := by simp [simpleStatement]

@[simp] theorem uniform_labelName : labelName.Uniform := by simp [labelName]

@[simp] theorem uniform_bareLabel : bareLabel.Uniform := by simp [bareLabel]

@[simp] theorem uniform_statements : statements.Uniform := by simp [statements]

@[simp] theorem uniform_clauses {head : GoRule} : (clauses head).Uniform ↔ head.Uniform := by
  simp (disch := decide) [clauses, caseClause, defaultClause, clauseBody]

@[simp] theorem uniform_condition : condition.Uniform := trivial

@[simp] theorem uniform_headerStart : headerStart.Uniform := trivial

@[simp] theorem uniform_headerTail : headerTail.Uniform := uniform_simpleTail

@[simp] theorem uniform_openBrace : openBrace.Uniform := uniform_sym _

@[simp] theorem uniform_ifStatement : ifStatement.Uniform := by
  simp (disch := decide) [ifStatement, ifHeader]

@[simp] theorem uniform_ranged : ranged.Uniform := by simp (disch := decide) [ranged]

@[simp] theorem uniform_countingLoop : countingLoop.Uniform := by simp [countingLoop]

@[simp] theorem uniform_forStatement : forStatement.Uniform := by
  simp (disch := decide) [forStatement, forHeader]

@[simp] theorem uniform_openClauses : openClauses.Uniform := by
  simp (disch := decide) [openClauses]

@[simp] theorem uniform_switchHeader {r : GoRule} : (switchHeader r).Uniform ↔ r.Uniform := by
  simp [switchHeader]

@[simp] theorem uniform_switchStatement : switchStatement.Uniform := by
  simp (disch := decide) [switchStatement, typeSubject, valueSubject, typeMark]

@[simp] theorem uniform_selectStatement : selectStatement.Uniform := by
  simp (disch := decide) [selectStatement, communication]

@[simp] theorem uniform_jumpTarget : jumpTarget.Uniform := ⟨uniform_closingWord, uniform_name _⟩

@[simp] theorem uniform_valuedKeywordStatement : valuedKeywordStatement.Uniform := by
  simp (disch := decide) [valuedKeywordStatement]

theorem uniform_statement : statement.Uniform := by
  simp (disch := decide) [statement, labeledStatement]

@[simp] theorem uniform_valuedStatement : valuedStatement.Uniform := by
  simp (disch := decide) [valuedStatement]

/-! ### Files -/

@[simp] theorem uniform_importDeclaration : importDeclaration.Uniform := by
  simp (disch := decide) [importDeclaration, importSpec]

@[simp] theorem uniform_fileDeclaration : fileDeclaration.Uniform := by
  simp (disch := decide) [fileDeclaration, packageClause, functionDeclaration,
    methodDeclaration]

/-- **The Go grammar** tests words only for being reserved, and other tokens for their kind or
symbol. -/
theorem rules_uniform : ∀ p : Phrase, (rules p).Uniform
  | .sourceFile => by simp [rules, sourceFile]
  | .type => ⟨uniform_simpleType, uniform_parenthesizedType⟩
  | .simpleType => uniform_simpleType
  | .parameters => uniform_parameterList
  | .expression => uniform_expression
  | .literalValue => uniform_literalValue
  | .block => by simp [rules, block]
  | .statement => uniform_statement
  | .ifStatement => uniform_ifStatement

/-! ## Carrying readings over -/

theorem read_like : ∀ (levels : Nat) (ctx : Context) (p : Phrase) (ts us : List Token), Alike ts us →
    SameEnd (Rule.read rules levels ctx p ts) (Rule.read rules levels ctx p us)
  | 0, _, _, _, _, _ => .refused
  | levels + 1, ctx, p, ts, us, h =>
    run_like (read_like levels) levels (rules p) (rules_uniform p) ctx ts us h

section
variable {levels turns : Nat} {r : GoRule} {ctx : Context} {ts us : List Token}

/-- **A rule that refuses tokens refuses tokens alike.** -/
theorem Refuses.like (h : Refuses levels turns r ctx us) (hr : r.Uniform) (hl : Alike ts us) :
    Refuses levels turns r ctx ts := by
  have hs := run_like (read_like levels) turns r hr ctx ts us hl
  unfold Refuses at *
  rw [h] at hs
  generalize r.run (Rule.read rules levels) turns ctx ts = reading at hs
  cases hs
  rfl

end

end Grammar

end Understudy.Go
