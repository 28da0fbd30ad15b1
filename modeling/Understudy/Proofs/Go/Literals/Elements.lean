import Understudy.Proofs.Go.Literals.Numerals

/-!
# Elements of string literals

The body of an interpreted literal is a row of elements: plain characters, and escapes that denote a
character or a byte. What is read as an element is one, and what is refused is at fault where it
stands, or ends too early.

* `Denotes`: the elements, and the bytes that they denote.
* `Faulty`, `CutOff`: what is at fault whatever follows it, and what only ends too early.
* `FaultOf`: the fault at the beginning of a text, by the characters that it starts with.
* `element_of_denotes`, `element_of_faulty`, `verdict_element`: what becomes of the first element.
* `faultOf_of_element`, `FaultOf.unique`: a refusal names the fault at the beginning.
-/

set_option autoImplicit false

namespace Understudy.Go.StringLiteral

/-! ## Elements -/

/-- The escapes of a single character, with the characters that they denote. -/
def simpleEscapes : List (Char × Char) :=
  [('a', '\x07'), ('b', '\x08'), ('f', '\x0c'), ('n', '\n'), ('r', '\r'), ('t', '\t'),
    ('v', '\x0b'), ('\\', '\\'), ('"', '"')]

/-- The marks of an escape by code point, with the number of digits behind them. -/
def unicodeMarks : List (Char × Nat) := [('u', 4), ('U', 8)]

/-- The characters are one element of an interpreted literal, and the bytes are what it denotes. -/
inductive Denotes : List Char → List UInt8 → Prop
  | plain {c : Char} (hquote : c ≠ '"') (hbackslash : c ≠ '\\') (hline : c ≠ '\n') :
    Denotes [c] (String.utf8EncodeChar c)
  | simple {c d : Char} (h : (c, d) ∈ simpleEscapes) : Denotes ['\\', c] (String.utf8EncodeChar d)
  | octal {digits : List Char} {byte : UInt8} (h : IsNumeral 8 3 digits byte.toNat) :
    Denotes ('\\' :: digits) [byte]
  | hex {digits : List Char} {byte : UInt8} (h : IsNumeral 16 2 digits byte.toNat) :
    Denotes ('\\' :: 'x' :: digits) [byte]
  | unicode {mark c : Char} {count : Nat} {digits : List Char}
    (hmark : (mark, count) ∈ unicodeMarks) (h : IsNumeral 16 count digits c.toNat) :
    Denotes ('\\' :: mark :: digits) (String.utf8EncodeChar c)

/-- The characters are a row of elements, and the bytes are what they denote together. -/
inductive DenotesAll : List Char → List UInt8 → Prop
  | nil : DenotesAll [] []
  | cons {e body : List Char} {bytes more : List UInt8} (he : Denotes e bytes)
    (h : DenotesAll body more) : DenotesAll (e ++ body) (bytes ++ more)

/-- Behind a backslash the character asks for `count` more digits in the radix. -/
inductive AsksDigits : Char → Nat → Nat → Prop
  | octal {c : Char} {d : Nat} (h : IsDigit 8 c d) : AsksDigits c 8 2
  | hex : AsksDigits 'x' 16 2
  | unicode {mark : Char} {count : Nat} (hmark : (mark, count) ∈ unicodeMarks) :
    AsksDigits mark 16 count

/-- No escape begins with the character. -/
def IsUnknown (c : Char) : Prop :=
  (∀ d, (c, d) ∉ simpleEscapes) ∧ ∀ radix count, ¬ AsksDigits c radix count

/-! ## Faults -/

/-- The characters are an element at fault, whatever follows them. -/
inductive Faulty : List Char → LiteralError → Prop
  | quote : Faulty ['"'] .strayQuote
  | lineBreak : Faulty ['\n'] .lineBreak
  | unknown {c : Char} (hc : IsUnknown c) : Faulty ['\\', c] (.badEscape c)
  | digit {c x : Char} {radix count : Nat} {digits : List Char} (hc : AsksDigits c radix count)
    (hdigits : IsShort radix count digits) (hx : ∀ d, ¬ IsDigit radix x d) :
    Faulty ('\\' :: c :: (digits ++ [x])) (.badEscape c)
  | large {c : Char} {digits : List Char} {v : Nat} (h : IsNumeral 8 3 (c :: digits) v)
    (hv : 255 < v) : Faulty ('\\' :: c :: digits) (.badEscape c)
  | codePoint {mark : Char} {count : Nat} {digits : List Char} {code : UInt32}
    (hmark : (mark, count) ∈ unicodeMarks) (h : IsNumeral 16 count digits code.toNat)
    (hcode : ¬ code.toNat.isValidChar) : Faulty ('\\' :: mark :: digits) (.badCodePoint code)

/-- The characters are an escape that ends too early. -/
inductive CutOff : List Char → LiteralError → Prop
  | backslash : CutOff ['\\'] .unterminated
  | digits {c : Char} {radix count : Nat} {digits : List Char} (hc : AsksDigits c radix count)
    (hdigits : IsShort radix count digits) : CutOff ('\\' :: c :: digits) (.badEscape c)

/-- The characters start with an escape by code point that has all its digits, and the code point
is no scalar value. -/
def StartsWithCode (cs : List Char) (code : UInt32) : Prop :=
  ∃ mark count digits rest, (mark, count) ∈ unicodeMarks ∧ cs = '\\' :: mark :: (digits ++ rest) ∧
    IsNumeral 16 count digits code.toNat ∧ ¬ code.toNat.isValidChar

/-- The fault at the beginning of characters that do not start with an element. -/
inductive FaultOf : List Char → LiteralError → Prop
  | quote {rest : List Char} : FaultOf ('"' :: rest) .strayQuote
  | lineBreak {rest : List Char} : FaultOf ('\n' :: rest) .lineBreak
  | backslash : FaultOf ['\\'] .unterminated
  | codePoint {cs : List Char} {code : UInt32} (h : StartsWithCode cs code) :
    FaultOf cs (.badCodePoint code)
  | escape {c : Char} {rest : List Char} (h : ∀ code, ¬ StartsWithCode ('\\' :: c :: rest) code) :
    FaultOf ('\\' :: c :: rest) (.badEscape c)

/-! ## Escapes -/

theorem simpleEscape_eq_some {c : Char} {byte : UInt8} (h : simpleEscape c = some byte) :
    ∃ d, (c, d) ∈ simpleEscapes ∧ [byte] = String.utf8EncodeChar d := by
  refine ⟨Char.ofNat byte.toNat, ?_⟩
  unfold simpleEscape at h
  split at h <;> cases h <;> decide

theorem simpleEscape_of_mem {c d : Char} (h : (c, d) ∈ simpleEscapes) :
    ∃ byte, simpleEscape c = some byte ∧ [byte] = String.utf8EncodeChar d := by
  have hall : simpleEscapes.all (fun e =>
      (simpleEscape e.1).map (fun byte => [byte]) == some (String.utf8EncodeChar e.2)) = true := by
    decide
  obtain ⟨byte, hc, hd⟩ := Option.map_eq_some_iff.1 (eq_of_beq (List.all_eq_true.1 hall _ h))
  exact ⟨byte, hc, hd⟩

theorem escapeSequence_simple {c d : Char} (h : (c, d) ∈ simpleEscapes) (cs : List Char) :
    escapeSequence (c :: cs) = .ok (String.utf8EncodeChar d, cs) := by
  obtain ⟨byte, hc, hd⟩ := simpleEscape_of_mem h
  rw [escapeSequence, hc, ← hd]

theorem escapeSequence_unicode {mark : Char} {count : Nat} (h : (mark, count) ∈ unicodeMarks)
    (cs : List Char) : escapeSequence (mark :: cs) = unicodeEscape mark count cs := by
  simp only [unicodeMarks, List.mem_cons, Prod.mk.injEq, List.not_mem_nil, or_false] at h
  rcases h with ⟨rfl, rfl⟩ | ⟨rfl, rfl⟩ <;> rfl

/-- No digit is an escape of a single character, or a mark. -/
theorem unmarked_of_digit {c : Char} {high : UInt32} (h : digitValue 8 c = some high) :
    simpleEscape c = none ∧ c ≠ 'x' ∧ c ≠ 'u' ∧ c ≠ 'U' := by
  have hmark : ∀ mark : Char, digitValue 8 mark = none → c ≠ mark := by
    rintro mark hnone rfl
    rw [h] at hnone
    cases hnone
  refine ⟨?_, hmark 'x' rfl, hmark 'u' rfl, hmark 'U' rfl⟩
  cases hc : simpleEscape c with
  | none => rfl
  | some byte =>
    obtain ⟨d, hd, _⟩ := simpleEscape_eq_some hc
    have hall : simpleEscapes.all (fun e => digitValue 8 e.1 == none) = true := by decide
    rw [eq_of_beq (List.all_eq_true.1 hall _ hd)] at h
    cases h

theorem escapeSequence_octal {c : Char} {high : UInt32} (h : digitValue 8 c = some high)
    (cs : List Char) : escapeSequence (c :: cs) = octalEscape c high cs := by
  obtain ⟨hsimple, hx, hu, hU⟩ := unmarked_of_digit h
  rw [escapeSequence, hsimple]
  simp only [if_neg hx, if_neg hu, if_neg hU, h]

/-- **What an escape is**, by the character behind the backslash. -/
theorem escapeSequence_cases (c : Char) (cs : List Char) :
    (∃ d, (c, d) ∈ simpleEscapes ∧ escapeSequence (c :: cs) = .ok (String.utf8EncodeChar d, cs)) ∨
    (c = 'x' ∧ escapeSequence (c :: cs) = hexEscape cs) ∨
    (∃ count, (c, count) ∈ unicodeMarks ∧ escapeSequence (c :: cs) = unicodeEscape c count cs) ∨
    (∃ high, digitValue 8 c = some high ∧ escapeSequence (c :: cs) = octalEscape c high cs) ∨
    IsUnknown c ∧ escapeSequence (c :: cs) = .error (.badEscape c) := by
  cases hsimple : simpleEscape c with
  | some byte =>
    obtain ⟨d, hd, _⟩ := simpleEscape_eq_some hsimple
    exact .inl ⟨d, hd, escapeSequence_simple hd cs⟩
  | none =>
    by_cases hx : c = 'x'
    · subst hx
      exact .inr (.inl ⟨rfl, rfl⟩)
    by_cases hu : c = 'u'
    · subst hu
      exact .inr (.inr (.inl ⟨4, by decide, rfl⟩))
    by_cases hU : c = 'U'
    · subst hU
      exact .inr (.inr (.inl ⟨8, by decide, rfl⟩))
    cases hdigit : digitValue 8 c with
    | some high => exact .inr (.inr (.inr (.inl ⟨high, rfl, escapeSequence_octal hdigit cs⟩)))
    | none =>
      refine .inr (.inr (.inr (.inr ⟨⟨fun d hd => ?_, fun radix count h => ?_⟩, ?_⟩)))
      · obtain ⟨byte, hbyte, _⟩ := simpleEscape_of_mem hd
        rw [hsimple] at hbyte
        cases hbyte
      · cases h with
        | octal hd =>
          obtain ⟨e, he, _⟩ := exists_octalValue hd
          rw [hdigit] at he
          cases he
        | hex => exact hx rfl
        | unicode hmark => simp_all [unicodeMarks]
      · rw [escapeSequence, hsimple]
        simp only [if_neg hx, if_neg hu, if_neg hU, hdigit]

section
variable {c first mark : Char} {count : Nat} {cs rest digits : List Char} {bytes : List UInt8}
  {e : LiteralError} {high code : UInt32}

theorem hexEscape_of_none (h : readDigits 16 2 0 cs = none) :
    hexEscape cs = .error (.badEscape 'x') := by
  rw [hexEscape, h]

theorem hexEscape_of_numeral {byte : UInt8} (h : IsNumeral 16 2 digits byte.toNat) :
    hexEscape (digits ++ rest) = .ok ([byte], rest) := by
  rw [← UInt8.toNat_toUInt32] at h
  rw [hexEscape, (readHex_iff (by decide)).2 ⟨digits, rfl, h⟩]
  simp

theorem scalar?_toNat (c : Char) (h : c.toNat = code.toNat) : scalar? code = some c := by
  obtain rfl : c.val = code := UInt32.toNat_inj.1 h
  exact dif_pos c.valid

theorem unicodeEscape_of_none (h : readDigits 16 count 0 cs = none) :
    unicodeEscape mark count cs = .error (.badEscape mark) := by
  rw [unicodeEscape, h]

theorem unicodeEscape_of_numeral (hcount : count ≤ 8) (h : IsNumeral 16 count digits c.toNat) :
    unicodeEscape mark count (digits ++ rest) = .ok (String.utf8EncodeChar c, rest) := by
  rw [unicodeEscape, (readHex_iff hcount).2 ⟨digits, rfl, h⟩]
  simp only [scalar?_toNat c rfl]

theorem unicodeEscape_of_surrogate (hcount : count ≤ 8) (h : IsNumeral 16 count digits code.toNat)
    (hcode : ¬ code.toNat.isValidChar) :
    unicodeEscape mark count (digits ++ rest) = .error (.badCodePoint code) := by
  have hnone : scalar? code = none := dif_neg hcode
  rw [unicodeEscape, (readHex_iff hcount).2 ⟨digits, rfl, h⟩]
  simp only [hnone]

theorem octalEscape_of_none (h : readDigits 8 2 0 cs = none) :
    octalEscape first high cs = .error (.badEscape first) := by
  rw [octalEscape, h]

/-- The value of three octal digits is exact in 32 bits. -/
theorem exists_octalLow {v : Nat} (hfirst : digitValue 8 first = some high)
    (h : IsNumeral 8 3 (first :: digits) v) (rest : List Char) :
    ∃ low, readDigits 8 2 0 (digits ++ rest) = some (low, rest) ∧ (high * 64 + low).toNat = v := by
  obtain ⟨_, d, _, w, heq, hd, hw, rfl⟩ := isNumeral_succ.1 h
  obtain ⟨rfl, rfl⟩ := List.cons.inj heq
  obtain ⟨d, hvalue, rfl⟩ := exists_octalValue hd
  cases hfirst.symm.trans hvalue
  have hhigh := hd.1
  have hlow := hw.lt_pow
  have hnat : (UInt32.ofNat w).toNat = w :=
    UInt32.toNat_ofNat_of_lt' (Nat.lt_trans hlow (by decide))
  have hroom : high.toNat * 64 + (UInt32.ofNat w).toNat < 2 ^ 32 := by omega
  refine ⟨UInt32.ofNat w, readOctal_iff.2 ⟨digits, rfl, by rwa [hnat]⟩, ?_⟩
  exact (toNat_mul_add hroom).trans (by rw [hnat]; rfl)

theorem octalEscape_of_byte {byte : UInt8} (hfirst : digitValue 8 first = some high)
    (h : IsNumeral 8 3 (first :: digits) byte.toNat) :
    octalEscape first high (digits ++ rest) = .ok ([byte], rest) := by
  obtain ⟨low, hread, hvalue⟩ := exists_octalLow hfirst h rest
  have hbyte : high * 64 + low = byte.toUInt32 := by
    rw [← UInt32.toNat_inj, hvalue, UInt8.toNat_toUInt32]
  have hlt : byte.toUInt32 < 256 := by
    rw [UInt32.lt_iff_toNat_lt, UInt8.toNat_toUInt32]
    exact byte.toNat_lt
  rw [octalEscape, hread]
  simp only [hbyte, if_pos hlt, UInt8.toUInt8_toUInt32]

theorem octalEscape_of_large {v : Nat} (hfirst : digitValue 8 first = some high)
    (h : IsNumeral 8 3 (first :: digits) v) (hv : 255 < v) :
    octalEscape first high (digits ++ rest) = .error (.badEscape first) := by
  obtain ⟨low, hread, hvalue⟩ := exists_octalLow hfirst h rest
  rw [octalEscape, hread]
  simp only [UInt32.lt_iff_toNat_lt, hvalue]
  exact if_neg (Nat.not_lt.2 hv)

end

/-! ## The first element -/

/-- An escape in digits that are not read is at fault. -/
theorem escapeSequence_of_none {c : Char} {radix : UInt32} {count : Nat} {cs : List Char}
    (hc : AsksDigits c radix.toNat count) (h : readDigits radix count 0 cs = none) :
    escapeSequence (c :: cs) = .error (.badEscape c) := by
  generalize hradix : radix.toNat = r at hc
  cases hc with
  | octal hd =>
    obtain rfl : radix = 8 := UInt32.toNat_inj.1 hradix
    obtain ⟨high, hhigh, _⟩ := exists_octalValue hd
    rw [escapeSequence_octal hhigh, octalEscape_of_none h]
  | hex =>
    obtain rfl : radix = 16 := UInt32.toNat_inj.1 hradix
    exact hexEscape_of_none h
  | unicode hmark =>
    obtain rfl : radix = 16 := UInt32.toNat_inj.1 hradix
    rw [escapeSequence_unicode hmark, unicodeEscape_of_none h]

theorem AsksDigits.exists_radix {c : Char} {radix count : Nat} (h : AsksDigits c radix count) :
    ∃ r : UInt32, r ≤ 16 ∧ r.toNat = radix := by
  cases h with
  | octal _ => exact ⟨8, by decide, rfl⟩
  | hex => exact ⟨16, by decide, rfl⟩
  | unicode _ => exact ⟨16, by decide, rfl⟩

section
variable {c : Char} {cs rest e f : List Char} {bytes : List UInt8} {err err' : LiteralError}

theorem le_of_mem_unicodeMarks {mark : Char} {count : Nat} (h : (mark, count) ∈ unicodeMarks) :
    count ≤ 8 := by
  have hall : unicodeMarks.all (fun m => decide (m.2 ≤ 8)) = true := by decide
  exact of_decide_eq_true (List.all_eq_true.1 hall _ h)

/-- An element is read as it is, whatever follows it. -/
theorem element_of_denotes (h : Denotes e bytes) (rest : List Char) :
    ∃ c cs, e = c :: cs ∧ element c (cs ++ rest) = .ok (bytes, rest) := by
  cases h with
  | @plain c hquote hbackslash hline =>
    refine ⟨c, [], rfl, ?_⟩
    rw [element, if_neg hquote, if_neg hline, if_neg hbackslash]
    rfl
  | @simple c d h => exact ⟨'\\', [c], rfl, escapeSequence_simple h rest⟩
  | @octal digits byte h =>
    obtain ⟨first, d, digits, _, rfl, hd, _, _⟩ := isNumeral_succ.1 h
    obtain ⟨high, hhigh, _⟩ := exists_octalValue hd
    refine ⟨'\\', first :: digits, rfl, ?_⟩
    exact (escapeSequence_octal hhigh _).trans (octalEscape_of_byte hhigh h)
  | @hex digits byte h => exact ⟨'\\', 'x' :: digits, rfl, hexEscape_of_numeral h⟩
  | @unicode mark c count digits hmark h =>
    refine ⟨'\\', mark :: digits, rfl, ?_⟩
    exact (escapeSequence_unicode hmark _).trans
      (unicodeEscape_of_numeral (le_of_mem_unicodeMarks hmark) h)

/-- An element at fault is refused as it is, whatever follows it. -/
theorem element_of_faulty (h : Faulty f err) (rest : List Char) :
    ∃ c cs, f = c :: cs ∧ element c (cs ++ rest) = .error err := by
  cases h with
  | quote => exact ⟨'"', [], rfl, rfl⟩
  | lineBreak => exact ⟨'\n', [], rfl, rfl⟩
  | @unknown c hc =>
    refine ⟨'\\', [c], rfl, ?_⟩
    obtain ⟨d, hd, _⟩ | ⟨rfl, _⟩ | ⟨count, hmark, _⟩ | ⟨high, hhigh, _⟩ | ⟨_, heq⟩ :=
      escapeSequence_cases c rest
    · exact absurd hd (hc.1 d)
    · exact absurd .hex (hc.2 16 2)
    · exact absurd (.unicode hmark) (hc.2 16 count)
    · exact absurd (.octal (isDigit_of_digitValue hhigh)) (hc.2 8 2)
    · exact heq
  | @digit c x radix count digits hc hdigits hx =>
    obtain ⟨r, _, rfl⟩ := hc.exists_radix
    have hnone : digitValue r x = none := by
      cases hd : digitValue r x with
      | none => rfl
      | some d => exact absurd (isDigit_of_digitValue hd) (hx _)
    refine ⟨'\\', c :: (digits ++ [x]), rfl, ?_⟩
    rw [List.cons_append, List.append_assoc]
    exact escapeSequence_of_none hc (readDigits_of_short hdigits.1 hnone rest)
  | @large c digits v h hv =>
    obtain ⟨_, d, _, _, heq, hd, _, _⟩ := isNumeral_succ.1 h
    obtain ⟨rfl, _⟩ := List.cons.inj heq
    obtain ⟨high, hhigh, _⟩ := exists_octalValue hd
    refine ⟨'\\', c :: digits, rfl, ?_⟩
    exact (escapeSequence_octal hhigh _).trans (octalEscape_of_large hhigh h hv)
  | @codePoint mark count digits code hmark h hcode =>
    refine ⟨'\\', mark :: digits, rfl, ?_⟩
    exact (escapeSequence_unicode hmark _).trans
      (unicodeEscape_of_surrogate (le_of_mem_unicodeMarks hmark) h hcode)

/-- What becomes of characters that are read as an element. -/
inductive Verdict (cs : List Char) : Except LiteralError (List UInt8 × List Char) → Prop
  | element {e rest : List Char} {bytes : List UInt8} (hcs : cs = e ++ rest) (h : Denotes e bytes) :
    Verdict cs (.ok (bytes, rest))
  | faulty {f rest : List Char} {err : LiteralError} (hcs : cs = f ++ rest) (h : Faulty f err) :
    Verdict cs (.error err)
  | cutOff {err : LiteralError} (h : CutOff cs err) : Verdict cs (.error err)

/-- Too few digits are a fault where they end. -/
theorem verdict_of_none {radix : UInt32} {count : Nat} (h : readDigits radix count 0 cs = none)
    (hradix : radix ≤ 16) (hc : AsksDigits c radix.toNat count) :
    Verdict ('\\' :: c :: cs) (.error (.badEscape c)) := by
  rcases short_of_readDigits hradix h with ⟨digits, x, rest, rfl, hdigits, hx⟩ | hshort
  · have hwhole : '\\' :: c :: (digits ++ x :: rest) = '\\' :: c :: (digits ++ [x]) ++ rest := by
      simp
    exact .faulty hwhole (.digit hc hdigits hx)
  · exact .cutOff (.digits hc hshort)

theorem verdict_hexEscape (cs : List Char) : Verdict ('\\' :: 'x' :: cs) (hexEscape cs) := by
  cases hread : readDigits 16 2 0 cs with
  | none =>
    rw [hexEscape_of_none hread]
    exact verdict_of_none hread (by decide) .hex
  | some reading =>
    obtain ⟨digits, rfl, hnumeral⟩ := (readHex_iff (by decide)).1 hread
    have hbyte : (UInt8.ofNat reading.1.toNat).toNat = reading.1.toNat :=
      UInt8.toNat_ofNat_of_lt' hnumeral.lt_pow
    rw [← hbyte] at hnumeral
    rw [hexEscape_of_numeral hnumeral]
    exact .element rfl (.hex hnumeral)

theorem verdict_unicodeEscape {mark : Char} {count : Nat} (hmark : (mark, count) ∈ unicodeMarks)
    (cs : List Char) : Verdict ('\\' :: mark :: cs) (unicodeEscape mark count cs) := by
  have hcount := le_of_mem_unicodeMarks hmark
  cases hread : readDigits 16 count 0 cs with
  | none =>
    rw [unicodeEscape_of_none hread]
    exact verdict_of_none hread (by decide) (.unicode hmark)
  | some reading =>
    obtain ⟨digits, rfl, hnumeral⟩ := (readHex_iff hcount).1 hread
    by_cases hcode : reading.1.toNat.isValidChar
    · have hchar : (⟨reading.1, hcode⟩ : Char).toNat = reading.1.toNat := rfl
      rw [← hchar] at hnumeral
      rw [unicodeEscape_of_numeral hcount hnumeral]
      exact .element rfl (.unicode hmark hnumeral)
    · rw [unicodeEscape_of_surrogate hcount hnumeral hcode]
      exact .faulty rfl (.codePoint hmark hnumeral hcode)

theorem verdict_octalEscape {high : UInt32} (hhigh : digitValue 8 c = some high) (cs : List Char) :
    Verdict ('\\' :: c :: cs) (octalEscape c high cs) := by
  have hdigit : IsDigit 8 c high.toNat := isDigit_of_digitValue hhigh
  cases hread : readDigits 8 2 0 cs with
  | none =>
    rw [octalEscape_of_none hread]
    exact verdict_of_none hread (by decide) (.octal hdigit)
  | some reading =>
    obtain ⟨digits, rfl, hlow⟩ := readOctal_iff.1 hread
    have hnumeral : IsNumeral 8 3 (c :: digits) (high.toNat * 8 ^ 2 + reading.1.toNat) :=
      isNumeral_succ.2 ⟨c, _, digits, _, rfl, hdigit, hlow, rfl⟩
    generalize high.toNat * 8 ^ 2 + reading.1.toNat = v at hnumeral
    by_cases hlarge : 255 < v
    · rw [octalEscape_of_large hhigh hnumeral hlarge]
      exact .faulty rfl (.large hnumeral hlarge)
    · have hbyte : (UInt8.ofNat v).toNat = v :=
        UInt8.toNat_ofNat_of_lt' (Nat.lt_succ_of_le (Nat.le_of_not_lt hlarge))
      rw [← hbyte] at hnumeral
      rw [octalEscape_of_byte hhigh hnumeral]
      exact .element rfl (.octal hnumeral)

/-- **What is read as an element is one, and what is refused is at fault.** -/
theorem verdict_element (c : Char) (cs : List Char) : Verdict (c :: cs) (element c cs) := by
  rw [element]
  split
  · rename_i hquote
    subst hquote
    exact .faulty rfl .quote
  split
  · rename_i hline
    subst hline
    exact .faulty rfl .lineBreak
  split
  · rename_i hbackslash
    subst hbackslash
    cases cs with
    | nil => exact .cutOff .backslash
    | cons x cs =>
      obtain ⟨d, hd, heq⟩ | ⟨rfl, heq⟩ | ⟨count, hmark, heq⟩ | ⟨high, hhigh, heq⟩ | ⟨hx, heq⟩ :=
        escapeSequence_cases x cs
      all_goals rw [heq]
      · exact .element rfl (.simple hd)
      · exact verdict_hexEscape cs
      · exact verdict_unicodeEscape hmark cs
      · exact verdict_octalEscape hhigh cs
      · exact .faulty rfl (.unknown hx)
  · rename_i hquote hline hbackslash
    exact .element rfl (.plain hquote hbackslash hline)

/-- An escape by code point that has all its digits is refused for the code point. -/
theorem element_of_startsWithCode {code : UInt32} (h : StartsWithCode (c :: cs) code) :
    element c cs = .error (.badCodePoint code) := by
  obtain ⟨mark, count, digits, rest, hmark, heq, hnumeral, hcode⟩ := h
  obtain ⟨x, xs, hcons, hread⟩ := element_of_faulty (.codePoint hmark hnumeral hcode) rest
  obtain ⟨rfl, rfl⟩ := List.cons.inj hcons
  obtain ⟨rfl, rfl⟩ := List.cons.inj heq
  exact hread

/-- The fault that is reported is the one at the beginning. -/
theorem faultOf_of_element (h : element c cs = .error err) : FaultOf (c :: cs) err := by
  have hescape : ∀ {x : Char} {xs : List Char}, c :: cs = '\\' :: x :: xs → err = .badEscape x →
      FaultOf (c :: cs) err := by
    rintro x xs heq rfl
    obtain ⟨rfl, rfl⟩ := List.cons.inj heq
    refine .escape fun code hcode => ?_
    rw [element_of_startsWithCode hcode] at h
    cases h
  have hverdict := verdict_element c cs
  rw [h] at hverdict
  cases hverdict with
  | @faulty f rest _ hcs hf =>
    cases hf with
    | quote => rw [hcs]; exact .quote
    | lineBreak => rw [hcs]; exact .lineBreak
    | unknown _ => exact hescape hcs rfl
    | digit _ _ _ => exact hescape hcs rfl
    | large _ _ => exact hescape hcs rfl
    | codePoint hmark hnumeral hcode =>
      exact .codePoint ⟨_, _, _, rest, hmark, hcs, hnumeral, hcode⟩
  | cutOff hcut =>
    generalize hcs : c :: cs = r at hcut
    cases hcut with
    | backslash => exact .backslash
    | digits _ _ => rw [← hcs]; exact hescape hcs rfl

theorem FaultOf.unique (h : FaultOf cs err) (h' : FaultOf cs err') : err = err' := by
  have hcode : ∀ {cs : List Char} {code : UInt32}, StartsWithCode cs code →
      ∃ x xs, cs = '\\' :: x :: xs ∧ element '\\' (x :: xs) = .error (.badCodePoint code) := by
    intro cs code h
    have hread := h
    obtain ⟨mark, count, digits, rest, _, rfl, _⟩ := h
    exact ⟨mark, digits ++ rest, rfl, element_of_startsWithCode hread⟩
  cases h with
  | quote =>
    cases h' with
    | quote => rfl
    | codePoint h => obtain ⟨x, xs, heq, _⟩ := hcode h; cases heq
  | lineBreak =>
    cases h' with
    | lineBreak => rfl
    | codePoint h => obtain ⟨x, xs, heq, _⟩ := hcode h; cases heq
  | backslash =>
    cases h' with
    | backslash => rfl
    | codePoint h => obtain ⟨x, xs, heq, _⟩ := hcode h; cases heq
  | @codePoint cs code h =>
    obtain ⟨x, xs, rfl, hread⟩ := hcode h
    cases h' with
    | codePoint h' =>
      obtain ⟨_, _, heq, hread'⟩ := hcode h'
      cases heq
      cases hread.symm.trans hread'
      rfl
    | escape hno => exact absurd h (hno code)
  | escape hno =>
    cases h' with
    | codePoint h' => exact absurd h' (hno _)
    | escape _ => rfl

end

end Understudy.Go.StringLiteral
