import Understudy.Go.Token

/-!
# Cutting a spelled text

`spell` writes tokens one after the other. Cutting the text gives the tokens back where each of them
ends at the next one: two words next to each other, or two symbols that make a longer one, do not.

* `Token.endsBefore`: the token ends there if the given character comes next.
* `extent_of_endsBefore`: then its extent is its own text.
* `Separate`: each token ends before the next one.
* `tokensFrom_spell`: separate tokens are what their text is cut into.
-/

set_option autoImplicit false

namespace Understudy.Go

/-- The characters of the tokens, one after the other. -/
def spell (ts : List Token) : List Char := ts.flatMap (fun t => t.text.toList)

@[simp] theorem spell_nil : spell [] = [] := rfl

@[simp] theorem spell_cons (t : Token) (ts : List Token) :
    spell (t :: ts) = t.text.toList ++ spell ts := rfl

@[simp] theorem spell_append (ts us : List Token) : spell (ts ++ us) = spell ts ++ spell us :=
  List.flatMap_append

theorem spell_flatMap {α : Type} (f : α → List Token) (xs : List α) :
    spell (xs.flatMap f) = xs.flatMap (fun x => spell (f x)) := List.flatMap_assoc

namespace Token

/-- A character that an interpreted string may hold as it is. -/
def isPlain (c : Char) : Bool := c != '"' && c != '\\' && c != '\n'

/-- Whether the token is well formed and ends where `next` is the character after it. -/
def endsBefore (t : Token) (next : Option Char) : Bool :=
  match t.kind, t.text.toList with
  | .word, c :: cs =>
    Text.isNameStart c && cs.all Text.isNameChar && next.all (fun d => !Text.isNameChar d)
  | .blank, c :: cs => isBlank c && cs.all isBlank && next.all (fun d => !isBlank d)
  | .newline, cs => cs == ['\n']
  | .symbol, c :: cs =>
    isSymbolChar c && c != '/' && !(c == '.' && (cs.head?.or next).any Char.isDigit) &&
      symbolLength (c :: cs) == cs.length + 1 &&
      next.all (fun d => longSymbols.all (fun s => !(c :: cs ++ [d]).isPrefixOf s.toList))
  | .string, '"' :: cs => cs.getLast? == some '"' && cs.dropLast.all isPlain
  | .comment, '/' :: '/' :: cs => cs.all (· != '\n') && next.all (· == '\n')
  | _, _ => false

/-! ## Runs of characters -/

theorem runLength_append {p : Char → Bool} : ∀ {cs rest : List Char}, cs.all p = true →
    rest.head?.all (fun d => !p d) = true → runLength p (cs ++ rest) = cs.length
  | [], [], _, _ => rfl
  | [], d :: _, _, hr => by
    have hd : p d = false := by simpa using hr
    simp [runLength, hd]
  | c :: cs, rest, hcs, hr => by
    simp only [List.all_cons, Bool.and_eq_true] at hcs
    simp [runLength, hcs.1, runLength_append hcs.2 hr]

theorem stringLength_append (rest : List Char) : ∀ {cs : List Char}, cs.all isPlain = true →
    stringLength (cs ++ '"' :: rest) = some (cs.length + 1)
  | [], _ => rfl
  | c :: cs, h => by
    simp only [List.all_cons, Bool.and_eq_true, isPlain, bne_iff_ne, ne_eq] at h
    have ih := stringLength_append rest h.2
    rw [List.cons_append, stringLength, ih]
    · rfl
    · exact fun hc => h.1.1.1 hc
    · exact fun hc => h.1.2 hc
    · exact fun d ds hc _ => h.1.1.2 hc

/-! ## Symbols -/

theorem symbolChar_facts {c : Char} (h : isSymbolChar c = true) :
    c ≠ '\n' ∧ isBlank c = false ∧ Text.isNameStart c = false ∧ c ≠ '"' ∧ c ≠ '`' ∧ c ≠ '\'' ∧
      c.isDigit = false := by
  have hall : "()[]{}.,;:=+-*/%&|^<>!~".toList.all (fun c => c ≠ '\n' ∧ isBlank c = false ∧
      Text.isNameStart c = false ∧ c ≠ '"' ∧ c ≠ '`' ∧ c ≠ '\'' ∧ c.isDigit = false) = true := by
    decide
  exact of_decide_eq_true (List.all_eq_true.1 hall c (by simpa [isSymbolChar] using h))

/-- A symbol is no prefix of a text that a shorter one begins, if the shorter one ends there. -/
theorem isPrefixOf_append {s cs rest : List Char}
    (h : ∀ d ∈ rest.head?, (cs ++ [d]).isPrefixOf s = false) :
    s.isPrefixOf (cs ++ rest) = s.isPrefixOf cs := by
  rw [Bool.eq_iff_iff, List.isPrefixOf_iff_prefix, List.isPrefixOf_iff_prefix]
  constructor
  · intro hs
    cases rest with
    | nil => simpa using hs
    | cons d rest =>
      have hd : ¬ cs ++ [d] <+: s := by
        rw [← List.isPrefixOf_iff_prefix, h d rfl]
        exact Bool.false_ne_true
      rcases List.prefix_or_prefix_of_prefix hs (⟨rest, by simp⟩ : cs ++ [d] <+: cs ++ d :: rest)
        with hp | hp
      · rcases List.prefix_concat_iff.1 hp with rfl | hp
        · exact absurd (List.prefix_refl _) hd
        · exact hp
      · exact absurd hp hd
  · exact fun hs => hs.trans (List.prefix_append cs rest)

theorem symbolLength_append {cs rest : List Char}
    (h : rest.head?.all (fun d =>
      longSymbols.all (fun s => !(cs ++ [d]).isPrefixOf s.toList)) = true) :
    symbolLength (cs ++ rest) = symbolLength cs := by
  have hs : ∀ s ∈ longSymbols, s.toList.isPrefixOf (cs ++ rest) = s.toList.isPrefixOf cs := by
    intro s hs
    apply isPrefixOf_append
    intro d hd
    rw [Option.all_eq_true] at h
    simpa using List.all_eq_true.1 (h d hd) s hs
  unfold symbolLength
  rw [← List.head?_filter, List.filter_congr hs, List.head?_filter]

/-! ## Extents -/

section
variable {c : Char} {cs rest : List Char}

theorem isBlank_of_isNameStart (hc : Text.isNameStart c = true) : isBlank c = false := by
  rw [Bool.eq_false_iff]
  intro hb
  simp only [isBlank, Bool.or_eq_true, beq_iff_eq] at hb
  rcases hb with (((rfl | rfl) | rfl) | rfl) | rfl <;> exact absurd hc (by decide)

theorem extent_word (hc : Text.isNameStart c = true) (hcs : cs.all Text.isNameChar = true)
    (hr : rest.head?.all (fun d => !Text.isNameChar d) = true) :
    extent c (cs ++ rest) = (.word, cs.length) := by
  have hn : c ≠ '\n' := by rintro rfl; exact absurd hc (by decide)
  simp [extent, hn, isBlank_of_isNameStart hc, hc, runLength_append hcs hr]

theorem extent_blank (hc : isBlank c = true) (hcs : cs.all isBlank = true)
    (hr : rest.head?.all (fun d => !isBlank d) = true) :
    extent c (cs ++ rest) = (.blank, cs.length) := by
  have hn : c ≠ '\n' := by rintro rfl; exact absurd hc (by decide)
  simp [extent, hn, hc, runLength_append hcs hr]

theorem extent_symbol (hc : isSymbolChar c = true) (hs : c ≠ '/')
    (hd : c = '.' → (cs.head?.or rest.head?).any Char.isDigit = false)
    (hl : symbolLength (c :: cs ++ rest) = cs.length + 1) :
    extent c (cs ++ rest) = (.symbol, cs.length) := by
  obtain ⟨hn, hb, hw, hq, hr, ha, hdig⟩ := symbolChar_facts hc
  rw [List.cons_append] at hl
  simpa [extent, hn, hb, hw, hs, hq, hr, ha, hdig, hc, hl] using hd

theorem extent_string (hcs : cs.all isPlain = true) :
    extent '"' (cs ++ '"' :: rest) = (.string, cs.length + 1) := by
  unfold extent
  rw [stringLength_append rest hcs]
  rfl

theorem extent_comment (hcs : cs.all (· != '\n') = true) (hr : rest.head?.all (· == '\n') = true) :
    extent '/' ('/' :: cs ++ rest) = (.comment, cs.length + 1) := by
  have hl : commentLength ('/' :: cs ++ rest) = some (cs.length + 1) := by
    rw [List.cons_append, commentLength, runLength_append hcs (by simpa [bne] using hr)]
  unfold extent
  rw [hl]
  rfl

end

/-- A token that ends before what follows it extends over its own text. -/
theorem extent_of_endsBefore {t : Token} {rest : List Char}
    (h : t.endsBefore rest.head? = true) :
    ∃ c cs, t.text.toList = c :: cs ∧ extent c (cs ++ rest) = (t.kind, cs.length) := by
  unfold endsBefore at h
  split at h
  · rename_i hk ht
    simp only [Bool.and_eq_true] at h
    exact ⟨_, _, ht, hk ▸ extent_word h.1.1 h.1.2 h.2⟩
  · rename_i hk ht
    simp only [Bool.and_eq_true] at h
    exact ⟨_, _, ht, hk ▸ extent_blank h.1.1 h.1.2 h.2⟩
  · rename_i hk
    exact ⟨'\n', [], by simpa using h, by rw [hk]; rfl⟩
  · rename_i c cs hk ht
    simp only [Bool.and_eq_true, bne_iff_ne, beq_iff_eq, Bool.not_eq_true', Bool.and_eq_false_imp]
      at h
    obtain ⟨⟨⟨⟨hc, hs⟩, hd⟩, hl⟩, hr⟩ := h
    exact ⟨c, cs, ht, hk ▸ extent_symbol hc hs hd (symbolLength_append hr ▸ hl)⟩
  · rename_i cs hk ht
    simp only [Bool.and_eq_true, beq_iff_eq] at h
    obtain ⟨body, rfl⟩ := List.getLast?_eq_some_iff.1 h.1
    rw [List.dropLast_concat] at h
    exact ⟨_, _, ht, by rw [hk, List.append_assoc]; simpa using extent_string h.2⟩
  · rename_i hk ht
    simp only [Bool.and_eq_true] at h
    exact ⟨_, _, ht, hk ▸ extent_comment h.1 h.2⟩
  · cases h

end Token

/-! ## Separate tokens -/

/-- The character that a text of the tokens begins with, if `next` comes after them. -/
def firstChar (ts : List Token) (next : Option Char) : Option Char := (spell ts).head?.or next

/-- Each token ends before the next one, and the last one before `next`. -/
def Separate : List Token → Option Char → Prop
  | [], _ => True
  | t :: ts, next => t.endsBefore (firstChar ts next) = true ∧ Separate ts next

theorem firstChar_head (ts : List Token) (rest : List Char) :
    firstChar ts rest.head? = (spell ts ++ rest).head? := List.head?_append.symm

theorem firstChar_append (ts us : List Token) (next : Option Char) :
    firstChar (ts ++ us) next = firstChar ts (firstChar us next) := by
  simp [firstChar, Option.or_assoc]

theorem separate_append {ts us : List Token} {next : Option Char} :
    Separate (ts ++ us) next ↔ Separate ts (firstChar us next) ∧ Separate us next := by
  induction ts with
  | nil => simp [Separate]
  | cons t ts ih => simp [Separate, ih, firstChar_append, and_assoc]

theorem separate_flatMap {α : Type} {f : α → List Token} {xs : List α}
    (h : ∀ x ∈ xs, ∀ next, Separate (f x) next) (next : Option Char) :
    Separate (xs.flatMap f) next := by
  induction xs with
  | nil => trivial
  | cons x xs ih =>
    rw [List.flatMap_cons, separate_append]
    exact ⟨h x (by simp) _, ih fun y hy => h y (by simp [hy])⟩

/-- **Separate tokens are what their text is cut into.** -/
theorem tokensFrom_spell {rest : List Char} : ∀ {ts : List Token}, Separate ts rest.head? →
    tokensFrom (spell ts ++ rest) = ts ++ tokensFrom rest
  | [], _ => rfl
  | ⟨kind, text⟩ :: ts, ⟨ht, hts⟩ => by
    rw [firstChar_head] at ht
    obtain ⟨c, cs, htext, he⟩ := Token.extent_of_endsBefore ht
    obtain rfl : text = String.ofList (c :: cs) := by rw [← htext, String.ofList_toList]
    rw [spell_cons, String.toList_ofList, List.append_assoc, List.cons_append, tokensFrom, he]
    simp [tokensFrom_spell hts]

theorem tokens_of_spell {source : String} {ts : List Token} (hs : spell ts = source.toList)
    (hts : Separate ts none) (hmark : source.toList.head? ≠ some Token.byteOrderMark) :
    tokens source = ts := by
  have hfrom : tokensFrom source.toList = ts := by
    have h : tokensFrom (spell ts ++ []) = ts ++ tokensFrom [] := tokensFrom_spell hts
    rwa [List.append_nil, hs, tokensFrom, List.append_nil] at h
  unfold tokens
  split
  · rename_i hnil
    rw [hnil, tokensFrom] at hfrom
    exact hfrom
  · rename_i c cs hcons
    rw [hcons] at hfrom hmark
    rw [if_neg (by simpa using hmark), hfrom]

end Understudy.Go
