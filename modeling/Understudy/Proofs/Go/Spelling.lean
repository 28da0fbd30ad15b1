import Understudy.Proofs.Go.Lexing
import Understudy.Proofs.Go.Likeness

/-!
# Names, types and lists, spelled

The pieces that the sources in these proofs are put together from. Each has a text, and tokens that
spell it and are separate wherever no name goes on after them.

* `Name`: letters and digits of ASCII that make no reserved word.
* `commaList`: pieces with commas between them.
* `TypeExpr`: slices and pointers over a name, with or without a package.
* `Prototype`: the parameters and the result of a function.
-/

set_option autoImplicit false

namespace Understudy.Go

/-! ## Tokens -/

namespace Token

abbrev word (s : String) : Token := ⟨.word, s⟩

abbrev symbol (s : String) : Token := ⟨.symbol, s⟩

abbrev space : Token := ⟨.blank, " "⟩

abbrev tab : Token := ⟨.blank, "\t"⟩

abbrev newline : Token := ⟨.newline, "\n"⟩

end Token

/-! ## Letters and digits -/

section
variable {c : Char}

theorem isUpper_iff : c.isUpper = true ↔ 65 ≤ c.toNat ∧ c.toNat ≤ 90 := by
  delta Char.isUpper
  simp [UInt32.le_iff_toNat_le]

theorem isLower_iff : c.isLower = true ↔ 97 ≤ c.toNat ∧ c.toNat ≤ 122 := by
  delta Char.isLower
  simp [UInt32.le_iff_toNat_le]

theorem isAlpha_iff : c.isAlpha = true ↔
    (65 ≤ c.toNat ∧ c.toNat ≤ 90) ∨ (97 ≤ c.toNat ∧ c.toNat ≤ 122) := by
  rw [← isUpper_iff, ← isLower_iff, ← Bool.or_eq_true]
  rfl

theorem isDigit_iff : c.isDigit = true ↔ 48 ≤ c.toNat ∧ c.toNat ≤ 57 := Char.isDigit_iff_toNat

end

theorem isNameStart_of_isAlpha {c : Char} (h : c.isAlpha = true) : Text.isNameStart c = true := by
  obtain ⟨rest, hrest⟩ : ∃ rest, Text.Identifier.start = (0x41, 0x5a) :: (0x61, 0x7a) :: rest :=
    ⟨_, rfl⟩
  have hn := isAlpha_iff.1 h
  unfold Text.isNameStart
  rw [hrest, Text.inRanges_cons, Text.inRanges_cons]
  have h1 : ¬ c.toNat < 65 := by omega
  rcases hn with hn | hn
  · simp [h1, hn]
  · have h2 : ¬ c.toNat < 97 := by omega
    simp [h1, h2, hn]

theorem isNameChar_of_isAlphanum {c : Char} (h : c.isAlphanum = true) :
    Text.isNameChar c = true := by
  obtain ⟨rest, hrest⟩ : ∃ rest, Text.Identifier.continuation =
      (0x30, 0x39) :: (0x41, 0x5a) :: (0x61, 0x7a) :: rest := ⟨_, rfl⟩
  have hn : ((65 ≤ c.toNat ∧ c.toNat ≤ 90) ∨ (97 ≤ c.toNat ∧ c.toNat ≤ 122)) ∨
      (48 ≤ c.toNat ∧ c.toNat ≤ 57) := by
    rwa [Char.isAlphanum, Bool.or_eq_true, isAlpha_iff, isDigit_iff] at h
  unfold Text.isNameChar
  rw [hrest, Text.inRanges_cons, Text.inRanges_cons, Text.inRanges_cons]
  have h1 : ¬ c.toNat < 48 := by omega
  rcases hn with (hn | hn) | hn
  · have h2 : ¬ c.toNat < 65 := by omega
    simp [h1, h2, hn]
  · have h2 : ¬ c.toNat < 65 := by omega
    have h3 : ¬ c.toNat < 97 := by omega
    simp [h1, h2, h3, hn]
  · simp [h1, hn]

/-- A letter is no blank, no symbol and no digit. -/
theorem isAlpha_facts {c : Char} (h : c.isAlpha = true) :
    Token.isBlank c = false ∧ Token.isSymbolChar c = false ∧ c.isDigit = false := by
  have hs := isNameStart_of_isAlpha h
  refine ⟨Token.isBlank_of_isNameStart hs, ?_, ?_⟩
  · rw [Bool.eq_false_iff]
    intro hc
    exact absurd hs (by simp [(Token.symbolChar_facts hc).2.2.1])
  · rw [Bool.eq_false_iff, ne_eq, isDigit_iff]
    have := isAlpha_iff.1 h
    omega

/-! ## Names -/

/-- Letters and digits of ASCII, a letter first, that make no reserved word. -/
def isOrdinary (s : String) : Bool :=
  s.toList.head?.any Char.isAlpha && s.toList.all Char.isAlphanum && !reservedWords.contains s

theorem isOrdinary_of_chars {s : String} {c : Char} {cs : List Char} (hs : s.toList = c :: cs)
    (hc : c.isAlpha = true) (hcs : cs.all Char.isAlphanum = true) (hfree : s ∉ reservedWords) :
    isOrdinary s = true := by
  have hfirst : c.isAlphanum = true := by simp [Char.isAlphanum, hc]
  simp only [isOrdinary, hs, List.head?_cons, Option.any_some, hc, List.all_cons, hfirst, hcs,
    Bool.true_and, Bool.not_eq_true', List.contains_eq_mem, decide_eq_false_iff_not, hfree,
    not_false_eq_true]

/-- A name of letters and digits. -/
structure Name where
  text : String
  ordinary : isOrdinary text = true

namespace Name

theorem chars (x : Name) : ∃ c cs, x.text.toList = c :: cs ∧ c.isAlpha = true ∧
    cs.all Char.isAlphanum = true := by
  have h := x.ordinary
  simp only [isOrdinary, Bool.and_eq_true] at h
  obtain ⟨⟨hhead, hall⟩, -⟩ := h
  cases hx : x.text.toList with
  | nil => simp [hx] at hhead
  | cons c cs =>
    rw [hx, List.all_cons, Bool.and_eq_true] at hall
    exact ⟨c, cs, rfl, by simpa [hx] using hhead, hall.2⟩

theorem free (x : Name) : x.text ∉ reservedWords := by
  have h := x.ordinary
  simp only [isOrdinary, Bool.and_eq_true, Bool.not_eq_true', List.contains_eq_mem,
    decide_eq_false_iff_not] at h
  exact h.2

/-- A name has no characters but letters and digits. -/
theorem all_chars (x : Name) {p : Char → Bool} (hp : ∀ c, c.isAlphanum = true → p c = true) :
    x.text.toList.all p = true := by
  have h := x.ordinary
  simp only [isOrdinary, Bool.and_eq_true, List.all_eq_true] at h
  rw [List.all_eq_true]
  exact fun c hc => hp c (h.1.2 c hc)

theorem all_chars_ne (x : Name) {d : Char} (hd : d.isAlphanum = false) :
    x.text.toList.all (· != d) = true :=
  x.all_chars fun _ hc => bne_iff_ne.2 fun h => Bool.eq_false_iff.1 hd (h ▸ hc)

/-- A name has neither quotes nor backslashes nor line ends. -/
theorem plain (x : Name) : x.text.toList.all Token.isPlain = true := by
  have hne : ∀ d ∈ ['"', '\\', '\n'], x.text.toList.all (· != d) = true := by
    simp only [List.forall_mem_cons, List.not_mem_nil, false_imp_iff, implies_true, and_true]
    exact ⟨x.all_chars_ne rfl, x.all_chars_ne rfl, x.all_chars_ne rfl⟩
  simp only [List.all_eq_true] at hne ⊢
  intro c hc
  simp [Token.isPlain, hne _ _ c hc]

end Name

/-! ## Where tokens end -/

namespace Token

/-- No name goes on with the character that comes next. -/
abbrev Stops (next : Option Char) : Prop := next.all (fun d => !Text.isNameChar d) = true

theorem endsBefore_word {s : String} {next : Option Char}
    (hs : s.toList.head?.any Text.isNameStart = true) (hall : s.toList.all Text.isNameChar = true)
    (hn : Stops next) : (word s).endsBefore next = true := by
  unfold endsBefore
  cases hc : s.toList with
  | nil => simp [hc] at hs
  | cons c cs =>
    simp only [hc, List.all_cons, Bool.and_eq_true] at hall
    simp only [hc, List.head?_cons, Option.any_some] at hs
    simp [hs, hall.2, hn]

theorem endsBefore_name (x : Name) {next : Option Char} (hn : Stops next) :
    (word x.text).endsBefore next = true := by
  obtain ⟨c, cs, hx, hc, hcs⟩ := x.chars
  apply endsBefore_word
  · simp [hx, isNameStart_of_isAlpha hc]
  · rw [hx, List.all_cons, Bool.and_eq_true]
    refine ⟨isNameChar_of_isAlphanum (by simp [Char.isAlphanum, hc]), ?_⟩
    rw [List.all_eq_true] at hcs ⊢
    exact fun d hd => isNameChar_of_isAlphanum (hcs d hd)
  · exact hn

theorem longSymbols_facts : ∀ s ∈ longSymbols,
    2 ≤ s.toList.length ∧ s.toList.all isSymbolChar = true := by decide

theorem symbolLength_singleton (c : Char) : symbolLength [c] = 1 := by
  have hnone : longSymbols.find? (fun s => s.toList.isPrefixOf [c]) = none := by
    rw [List.find?_eq_none]
    intro s hs hp
    have hle := (List.isPrefixOf_iff_prefix.1 hp).length_le
    have := (longSymbols_facts s hs).1
    simp at hle
    omega
  simp [symbolLength, hnone]

/-- A symbol of one character ends before a character that is neither symbol nor digit. -/
theorem endsBefore_symbol {c d : Char} (hc : isSymbolChar c = true) (hs : c ≠ '/')
    (hd : isSymbolChar d = false) (hdig : d.isDigit = false) :
    (symbol (String.singleton c)).endsBefore (some d) = true := by
  have hlong : longSymbols.all (fun s => !List.isPrefixOf [c, d] s.toList) = true := by
    rw [List.all_eq_true]
    intro s hs
    rw [Bool.not_eq_true', Bool.eq_false_iff]
    intro hp
    have hmem : d ∈ s.toList := (List.isPrefixOf_iff_prefix.1 hp).subset (by simp)
    have := List.all_eq_true.1 (longSymbols_facts s hs).2 d hmem
    simp [hd] at this
  simp [endsBefore, hc, hs, hdig, symbolLength_singleton, hlong]

/-- A bracket or a comma ends before anything. -/
theorem endsBefore_bracket {c : Char} (hc : c ∈ ['(', ')', '[', ']', '{', '}', ','])
    (next : Option Char) : (symbol (String.singleton c)).endsBefore next = true := by
  have hlong : ∀ d, longSymbols.all (fun s => !List.isPrefixOf [c, d] s.toList) = true := by
    intro d
    simp only [List.mem_cons, List.not_mem_nil, or_false] at hc
    rcases hc with rfl | rfl | rfl | rfl | rfl | rfl | rfl <;> rfl
  have hfacts : isSymbolChar c = true ∧ c ≠ '/' ∧ c ≠ '.' := by
    simp only [List.mem_cons, List.not_mem_nil, or_false] at hc
    rcases hc with rfl | rfl | rfl | rfl | rfl | rfl | rfl <;> decide
  simp [endsBefore, hfacts, symbolLength_singleton, hlong]

section
variable (next : Option Char)

@[simp] theorem endsBefore_open : (symbol "(").endsBefore next = true :=
  endsBefore_bracket (by decide : '(' ∈ _) next

@[simp] theorem endsBefore_close : (symbol ")").endsBefore next = true :=
  endsBefore_bracket (by decide : ')' ∈ _) next

@[simp] theorem endsBefore_openBracket : (symbol "[").endsBefore next = true :=
  endsBefore_bracket (by decide : '[' ∈ _) next

@[simp] theorem endsBefore_closeBracket : (symbol "]").endsBefore next = true :=
  endsBefore_bracket (by decide : ']' ∈ _) next

@[simp] theorem endsBefore_openBrace : (symbol "\x7b").endsBefore next = true :=
  endsBefore_bracket (by decide : '{' ∈ _) next

@[simp] theorem endsBefore_closeBrace : (symbol "\x7d").endsBefore next = true :=
  endsBefore_bracket (by decide : '}' ∈ _) next

@[simp] theorem endsBefore_comma : (symbol ",").endsBefore next = true :=
  endsBefore_bracket (by decide : ',' ∈ _) next

@[simp] theorem endsBefore_newline : newline.endsBefore next = true := rfl

end

/-- A blank ends before anything else. -/
theorem endsBefore_space {c : Char} (hc : isBlank c = false) :
    space.endsBefore (some c) = true := by
  have hb : isBlank ' ' = true := rfl
  simp [endsBefore, hb, hc]

/-- A comment ends before a line end. -/
theorem endsBefore_comment {s : String} {cs : List Char} (hs : s.toList = '/' :: '/' :: cs)
    (hcs : cs.all (· != '\n') = true) :
    (⟨.comment, s⟩ : Token).endsBefore (some '\n') = true := by
  simp only [endsBefore, hs, hcs]
  rfl

theorem endsBefore_tab {c : Char} (hc : isBlank c = false) : tab.endsBefore (some c) = true := by
  have hb : isBlank '\t' = true := rfl
  simp [endsBefore, hb, hc]

end Token

open Token

/-! ## Pieces -/

/-- Tokens that may stand after a blank and before anything that ends a name. -/
structure Freestanding (ts : List Token) : Prop where
  /-- They begin with no blank. -/
  first : ∃ c, (spell ts).head? = some c ∧ isBlank c = false
  separate : ∀ next, Stops next → Separate ts next

theorem Freestanding.firstChar {ts : List Token} (h : Freestanding ts) (next : Option Char) :
    ∃ c, firstChar ts next = some c ∧ isBlank c = false := by
  obtain ⟨c, hc, hb⟩ := h.first
  exact ⟨c, by rw [Go.firstChar, hc, Option.some_or], hb⟩

/-- A blank before the piece. -/
theorem Freestanding.space {ts : List Token} (h : Freestanding ts) {next : Option Char}
    (hn : Stops next) : Separate (.space :: ts) next := by
  obtain ⟨c, hc, hb⟩ := h.firstChar next
  exact ⟨hc ▸ endsBefore_space hb, h.separate next hn⟩

/-- A tab before the piece. -/
theorem Freestanding.tab {ts : List Token} (h : Freestanding ts) {next : Option Char}
    (hn : Stops next) : Separate (.tab :: ts) next := by
  obtain ⟨c, hc, hb⟩ := h.firstChar next
  exact ⟨hc ▸ endsBefore_tab hb, h.separate next hn⟩

theorem Name.freestanding (x : Name) : Freestanding [.word x.text] := by
  obtain ⟨c, cs, hx, hc, -⟩ := x.chars
  exact ⟨⟨c, by simp [hx], (isAlpha_facts hc).1⟩, fun next hn => ⟨endsBefore_name x hn, trivial⟩⟩

theorem Name.firstChar (x : Name) (ts : List Token) (next : Option Char) :
    ∃ c, firstChar (.word x.text :: ts) next = some c ∧ c.isAlpha = true := by
  obtain ⟨c, cs, hx, hc, -⟩ := x.chars
  exact ⟨c, by simp [Go.firstChar, hx], hc⟩

/-- A dot ends before a name. -/
theorem endsBefore_dot (x : Name) (ts : List Token) (next : Option Char) :
    (symbol ".").endsBefore (firstChar (.word x.text :: ts) next) = true := by
  obtain ⟨c, hx, hc⟩ := x.firstChar ts next
  rw [hx]
  exact endsBefore_symbol (by decide : isSymbolChar '.' = true) (by decide) (isAlpha_facts hc).2.1
    (isAlpha_facts hc).2.2

/-- Pieces with commas between them. -/
def commaList : List (List Token) → List Token
  | [] => []
  | x :: xs => x ++ xs.flatMap (fun y => .symbol "," :: .space :: y)

theorem commaList_cons_cons (x y : List Token) (ys : List (List Token)) :
    commaList (x :: y :: ys) = x ++ .symbol "," :: .space :: commaList (y :: ys) := by
  simp [commaList]

theorem spell_commaList : ∀ xs : List (List Token),
    spell (commaList xs) = [',', ' '].intercalate (xs.map spell)
  | [] => rfl
  | [x] => by simp [commaList]
  | x :: y :: ys => by
    rw [commaList_cons_cons, spell_append, spell_cons, spell_cons, spell_commaList (y :: ys)]
    simp [List.intercalate_cons_cons]

/-- The text of pieces with commas between them. -/
theorem toList_commas {α : Type} {text : α → String} {tokens : α → List Token}
    (h : ∀ x, spell (tokens x) = (text x).toList) (xs : List α) :
    (", ".intercalate (xs.map text)).toList = spell (commaList (xs.map tokens)) := by
  rw [String.toList_intercalate, spell_commaList, List.map_map, List.map_map]
  simp only [Function.comp_def, h]
  rfl

theorem Freestanding.commaList : ∀ {xs : List (List Token)}, xs ≠ [] →
    (∀ x ∈ xs, Freestanding x) → Freestanding (Go.commaList xs)
  | [x], _, h => by simpa [Go.commaList] using h
  | x :: y :: ys, _, h => by
    have hx := h x (by simp)
    have hys : Freestanding (Go.commaList (y :: ys)) :=
      Freestanding.commaList (by simp) fun z hz => h z (by simp [hz])
    obtain ⟨c, hc, hb⟩ := hx.first
    rw [commaList_cons_cons]
    refine ⟨⟨c, by simp [hc], hb⟩, fun next hn => ?_⟩
    exact separate_append.2 ⟨hx.separate _ rfl, endsBefore_comma _, hys.space hn⟩

theorem separate_commaList {xs : List (List Token)} (h : ∀ x ∈ xs, Freestanding x)
    {next : Option Char} (hn : Stops next) : Separate (commaList xs) next := by
  cases xs with
  | nil => trivial
  | cons x xs => exact (Freestanding.commaList (by simp) h).separate next hn

/-! ## Types -/

/-- A type: slices and pointers over a name. -/
inductive TypeExpr where
  | name (x : Name)
  | qualified (package x : Name)
  | slice (element : TypeExpr)
  | pointer (target : TypeExpr)

namespace TypeExpr

def text : TypeExpr → String
  | name x => x.text
  | qualified q x => q.text ++ "." ++ x.text
  | slice t => "[]" ++ t.text
  | pointer t => "*" ++ t.text

def tokens : TypeExpr → List Token
  | name x => [.word x.text]
  | qualified q x => [.word q.text, .symbol ".", .word x.text]
  | slice t => .symbol "[" :: .symbol "]" :: t.tokens
  | pointer t => .symbol "*" :: t.tokens

theorem spell_tokens : ∀ t : TypeExpr, spell t.tokens = t.text.toList
  | name x => by simp [tokens, text]
  | qualified q x => by simp [tokens, text]
  | slice t => by simp [tokens, text, spell_tokens t]
  | pointer t => by simp [tokens, text, spell_tokens t]

/-- A type begins with a letter, a bracket or a star. -/
theorem head_spell (t : TypeExpr) : ∃ c, (spell t.tokens).head? = some c ∧
    (c.isAlpha = true ∨ c = '[' ∨ c = '*') := by
  cases t with
  | name x | qualified x _ =>
    obtain ⟨c, cs, hx, hc, -⟩ := x.chars
    exact ⟨c, by simp [tokens, hx], .inl hc⟩
  | slice t => exact ⟨'[', rfl, .inr (.inl rfl)⟩
  | pointer t => exact ⟨'*', rfl, .inr (.inr rfl)⟩

theorem separate_tokens {next : Option Char} (hn : Stops next) : ∀ t : TypeExpr,
    Separate t.tokens next
  | name x => x.freestanding.separate next hn
  | qualified q x =>
    ⟨endsBefore_name q rfl, endsBefore_dot x [] next, x.freestanding.separate next hn⟩
  | slice t => ⟨endsBefore_openBracket _, endsBefore_closeBracket _, separate_tokens hn t⟩
  | pointer t => by
    obtain ⟨c, hc, hfirst⟩ := t.head_spell
    refine ⟨?_, separate_tokens hn t⟩
    rw [firstChar, hc, Option.some_or]
    rcases hfirst with hc | rfl | rfl
    · exact endsBefore_symbol (by decide : isSymbolChar '*' = true) (by decide)
        (isAlpha_facts hc).2.1 (isAlpha_facts hc).2.2
    · rfl
    · rfl

theorem freestanding (t : TypeExpr) : Freestanding t.tokens := by
  obtain ⟨c, hc, hfirst⟩ := t.head_spell
  refine ⟨⟨c, hc, ?_⟩, fun next hn => separate_tokens hn t⟩
  rcases hfirst with hc | rfl | rfl
  · exact (isAlpha_facts hc).1
  · rfl
  · rfl

end TypeExpr

/-! ## Parameters and results -/

/-- Names that share a type. -/
structure Group where
  first : Name
  more : List Name
  type : TypeExpr

namespace Group

def names (g : Group) : List Name := g.first :: g.more

def text (g : Group) : String := ", ".intercalate (g.names.map Name.text) ++ " " ++ g.type.text

def tokens (g : Group) : List Token :=
  commaList (g.names.map (fun x => [.word x.text])) ++ .space :: g.type.tokens

theorem spell_tokens (g : Group) : spell g.tokens = g.text.toList := by
  have hnames : (", ".intercalate (g.names.map Name.text)).toList =
      spell (commaList (g.names.map fun x => [.word x.text])) := toList_commas (by simp) g.names
  simp [tokens, text, hnames, g.type.spell_tokens]

theorem freestanding (g : Group) : Freestanding g.tokens := by
  have hnames : Freestanding (commaList (g.names.map fun x => [.word x.text])) := by
    apply Freestanding.commaList
    · simp [names]
    · simpa using fun x _ => x.freestanding
  obtain ⟨c, hc, hb⟩ := hnames.first
  refine ⟨⟨c, by simp [tokens, hc], hb⟩, fun next hn => ?_⟩
  exact separate_append.2 ⟨hnames.separate _ rfl, g.type.freestanding.space hn⟩

end Group

/-- A list of parameters or results: all with names, or all without. -/
inductive FieldList where
  | named (groups : List Group)
  | unnamed (types : List TypeExpr)

namespace FieldList

def text : FieldList → String
  | named groups => ", ".intercalate (groups.map Group.text)
  | unnamed types => ", ".intercalate (types.map TypeExpr.text)

def tokens : FieldList → List Token
  | named groups => commaList (groups.map Group.tokens)
  | unnamed types => commaList (types.map TypeExpr.tokens)

theorem spell_tokens : ∀ l : FieldList, spell l.tokens = l.text.toList
  | named groups => (toList_commas Group.spell_tokens groups).symm
  | unnamed types => (toList_commas TypeExpr.spell_tokens types).symm

theorem separate_tokens {next : Option Char} (hn : Stops next) : ∀ l : FieldList,
    Separate l.tokens next
  | named groups => separate_commaList (by simpa using fun g _ => g.freestanding) hn
  | unnamed types => separate_commaList (by simpa using fun t _ => t.freestanding) hn

end FieldList

/-- The result of a function: nothing, a type, or a list in parentheses. -/
inductive Result where
  | none
  | bare (type : TypeExpr)
  | list (fields : FieldList)

namespace Result

def text : Result → String
  | none => ""
  | bare t => " " ++ t.text
  | list l => " (" ++ l.text ++ ")"

def tokens : Result → List Token
  | none => []
  | bare t => .space :: t.tokens
  | list l => .space :: .symbol "(" :: (l.tokens ++ [.symbol ")"])

theorem spell_tokens : ∀ r : Result, spell r.tokens = r.text.toList
  | none => rfl
  | bare t => by simp [tokens, text, t.spell_tokens]
  | list l => by simp [tokens, text, l.spell_tokens]

theorem separate_tokens {next : Option Char} (hn : Stops next) : ∀ r : Result,
    Separate r.tokens next
  | none => trivial
  | bare t => t.freestanding.space hn
  | list l => by
    refine ⟨rfl, endsBefore_open _, separate_append.2 ⟨l.separate_tokens rfl, ?_⟩⟩
    exact ⟨endsBefore_close _, trivial⟩

end Result

/-- The parameters and the result of a function. -/
structure Prototype where
  parameters : FieldList
  result : Result

namespace Prototype

def text (p : Prototype) : String := "(" ++ p.parameters.text ++ ")" ++ p.result.text

def tokens (p : Prototype) : List Token :=
  .symbol "(" :: (p.parameters.tokens ++ .symbol ")" :: p.result.tokens)

theorem spell_tokens (p : Prototype) : spell p.tokens = p.text.toList := by
  simp [tokens, text, p.parameters.spell_tokens, p.result.spell_tokens]

theorem separate_tokens (p : Prototype) {next : Option Char} (hn : Stops next) :
    Separate p.tokens next :=
  ⟨endsBefore_open _, separate_append.2
    ⟨p.parameters.separate_tokens rfl, endsBefore_close _, p.result.separate_tokens hn⟩⟩

end Prototype

end Understudy.Go
