import Understudy.Proofs.Go.Literals.Bodies

/-!
# The arithmetic of escapes

The numbers in escapes are computed in 32 bits, and eight hexadecimal digits fill these to the last.
To speak of each product, sum and byte on the way, a body is read once more with a record of them.

* `Step`, `Step.Exact`: the steps in numbers, and that nothing is lost in one.
* `recordBody`: the reading of a body, with the steps that it takes.
* `Takes`, `mem_recordBody`: the same steps, by the escapes that the reading comes to.
* `EscapeStep.exact`: no step of an escape loses anything.
* `unescape_exact`: the reading with the record is the reading, and all its steps are exact.
-/

set_option autoImplicit false

namespace Understudy.Go.StringLiteral

/-! ## Steps and their record -/

/-- A step in numbers that reading an escape takes. -/
inductive Step where
  /-- The product `value * radix`. -/
  | scale (value radix : UInt32)
  /-- The sum `value * radix + digit`. -/
  | extend (value radix digit : UInt32)
  /-- The byte made from a number. -/
  | narrow (value : UInt32)
  /-- The outcome of reading `count` digits from `cs`: their value and what follows them. -/
  | digits (radix : UInt32) (count : Nat) (cs : List Char) (reading : Option (UInt32 × List Char))
deriving DecidableEq

/-- Nothing is lost in the step: what is computed in few bits is what it is without bounds. -/
def Step.Exact : Step → Prop
  | scale value radix => (value * radix).toNat = value.toNat * radix.toNat
  | extend value radix digit =>
    (value * radix + digit).toNat = value.toNat * radix.toNat + digit.toNat
  | narrow value => value.toUInt8.toNat = value.toNat
  | digits radix count cs reading => ∀ value rest, reading = some (value, rest) ↔
    ∃ front, cs = front ++ rest ∧ front.length = count ∧
      IsNumeral radix.toNat count front value.toNat ∧ value.toNat < radix.toNat ^ count

/-- A result, with the steps taken on the way to it. -/
structure Recorded (α : Type) where
  result : α
  steps : List Step

namespace Recorded

instance : Monad Recorded where
  pure a := ⟨a, []⟩
  bind x f := ⟨(f x.result).result, x.steps ++ (f x.result).steps⟩

variable {α β : Type}

@[simp] theorem result_pure (a : α) : (pure a : Recorded α).result = a := rfl

@[simp] theorem steps_pure (a : α) : (pure a : Recorded α).steps = [] := rfl

@[simp] theorem result_bind (x : Recorded α) (f : α → Recorded β) :
    (x >>= f).result = (f x.result).result := rfl

@[simp] theorem steps_bind (x : Recorded α) (f : α → Recorded β) :
    (x >>= f).steps = x.steps ++ (f x.result).steps := rfl

end Recorded

/-- Writes a step down. -/
def note (s : Step) : Recorded Unit := ⟨(), [s]⟩

@[simp] theorem steps_note (s : Step) : (note s).steps = [s] := rfl

/-! ## Reading with a record -/

/-- `readDigits` with its steps: a product and a sum for each digit. -/
def recordDigits (radix : UInt32) : (count : Nat) → (value : UInt32) → List Char →
    Recorded (Option (UInt32 × List Char))
  | 0, value, cs => pure (some (value, cs))
  | _ + 1, _, [] => pure none
  | count + 1, value, c :: cs =>
    match digitValue radix c with
    | some d => do
      note (.scale value radix)
      note (.extend value radix d)
      recordDigits radix count (value * radix + d) cs
    | none => pure none

/-- `readDigits` from zero with its steps and their outcome. -/
def recordNumber (radix : UInt32) (count : Nat) (cs : List Char) :
    Recorded (Option (UInt32 × List Char)) := do
  let reading ← recordDigits radix count 0 cs
  note (.digits radix count cs reading)
  return reading

/-- `octalEscape` with its steps. The first digit is scaled before the others are read. -/
def recordOctal (first : Char) (high : UInt32) (cs : List Char) :
    Recorded (Except LiteralError (List UInt8 × List Char)) := do
  note (.scale high 64)
  match ← recordNumber 8 2 cs with
  | none => return .error (.badEscape first)
  | some (low, rest) =>
    note (.extend high 64 low)
    if high * 64 + low < 256 then
      note (.narrow (high * 64 + low))
      return .ok ([(high * 64 + low).toUInt8], rest)
    else return .error (.badEscape first)

/-- `hexEscape` with its steps. -/
def recordHex (cs : List Char) : Recorded (Except LiteralError (List UInt8 × List Char)) := do
  match ← recordNumber 16 2 cs with
  | none => return .error (.badEscape 'x')
  | some (value, rest) =>
    note (.narrow value)
    return .ok ([value.toUInt8], rest)

/-- `unicodeEscape` with its steps. -/
def recordUnicode (mark : Char) (count : Nat) (cs : List Char) :
    Recorded (Except LiteralError (List UInt8 × List Char)) := do
  match ← recordNumber 16 count cs with
  | none => return .error (.badEscape mark)
  | some (code, rest) =>
    match scalar? code with
    | some c => return .ok (String.utf8EncodeChar c, rest)
    | none => return .error (.badCodePoint code)

/-- `escapeSequence` with its steps. -/
def recordEscape : List Char → Recorded (Except LiteralError (List UInt8 × List Char))
  | [] => pure (.error .unterminated)
  | c :: cs =>
    match simpleEscape c with
    | some byte => pure (.ok ([byte], cs))
    | none =>
      if c = 'x' then recordHex cs
      else if c = 'u' then recordUnicode 'u' 4 cs
      else if c = 'U' then recordUnicode 'U' 8 cs
      else
        match digitValue 8 c with
        | some high => recordOctal c high cs
        | none => pure (.error (.badEscape c))

/-- `element` with its steps. -/
def recordElement (c : Char) (cs : List Char) :
    Recorded (Except LiteralError (List UInt8 × List Char)) :=
  if c = '"' then pure (.error .strayQuote)
  else if c = '\n' then pure (.error .lineBreak)
  else if c = '\\' then recordEscape cs
  else pure (.ok (String.utf8EncodeChar c, cs))

section
variable {radix value high : UInt32} {count : Nat} {c first mark : Char} {cs : List Char}

@[simp] theorem result_recordDigits :
    (recordDigits radix count value cs).result = readDigits radix count value cs := by
  induction count generalizing value cs with
  | zero => rfl
  | succ count ih =>
    cases cs with
    | nil => rfl
    | cons c cs =>
      rw [recordDigits, readDigits]
      cases digitValue radix c with
      | none => rfl
      | some d => exact ih

@[simp] theorem result_recordNumber :
    (recordNumber radix count cs).result = readDigits radix count 0 cs :=
  result_recordDigits

@[simp] theorem result_recordOctal :
    (recordOctal first high cs).result = octalEscape first high cs := by
  rw [recordOctal, octalEscape]
  simp only [Recorded.result_bind, result_recordNumber]
  cases readDigits 8 2 0 cs with
  | none => rfl
  | some reading =>
    by_cases hlt : high * 64 + reading.1 < 256 <;> simp [hlt]

@[simp] theorem result_recordHex : (recordHex cs).result = hexEscape cs := by
  rw [recordHex, hexEscape]
  simp only [Recorded.result_bind, result_recordNumber]
  cases readDigits 16 2 0 cs <;> rfl

@[simp] theorem result_recordUnicode :
    (recordUnicode mark count cs).result = unicodeEscape mark count cs := by
  rw [recordUnicode, unicodeEscape]
  simp only [Recorded.result_bind, result_recordNumber]
  cases readDigits 16 count 0 cs with
  | none => rfl
  | some reading => cases hcode : scalar? reading.1 <;> simp [hcode]

@[simp] theorem result_recordEscape : (recordEscape cs).result = escapeSequence cs := by
  cases cs with
  | nil => rfl
  | cons c cs =>
    rw [recordEscape, escapeSequence]
    cases simpleEscape c with
    | some byte => rfl
    | none => cases digitValue 8 c <;> simp only [apply_ite Recorded.result, result_recordHex,
        result_recordUnicode, result_recordOctal, Recorded.result_pure]

@[simp] theorem result_recordElement : (recordElement c cs).result = element c cs := by
  simp only [recordElement, element, apply_ite Recorded.result, result_recordEscape,
    Recorded.result_pure]

end

/-- `unescape` with its steps. -/
def recordBody : List Char → Recorded (Except LiteralError (List UInt8))
  | [] => pure (.ok [])
  | c :: cs =>
    match _read : (recordElement c cs).result with
    | .error e => ⟨.error e, (recordElement c cs).steps⟩
    | .ok (bytes, rest) =>
      ⟨(recordBody rest).result.map (bytes ++ ·),
        (recordElement c cs).steps ++ (recordBody rest).steps⟩
termination_by cs => cs.length
decreasing_by
  have := element_length (result_recordElement.symm.trans _read)
  simp only [List.length_cons]; omega

theorem result_recordBody (body : List Char) : (recordBody body).result = unescape body := by
  fun_induction recordBody body with
  | case1 => rw [unescape]; rfl
  | case2 c cs err hread =>
    rw [result_recordElement] at hread
    exact (unescape_of_error hread).symm
  | case3 c cs bytes rest hread ih =>
    rw [result_recordElement] at hread
    rw [unescape_of_ok hread, ih]

/-! ## The steps by the escapes of a body -/

/-- Reading `count` digits onto `start` comes to a digit of value `d`, with `value` read before
it. -/
def Round (radix : UInt32) (count : Nat) (start : UInt32) (cs : List Char)
    (value d : UInt32) : Prop :=
  ∃ k < count, ∃ x tail, readDigits radix k start cs = some (value, x :: tail) ∧
    digitValue radix x = some d

/-- The steps of reading `count` digits. -/
inductive NumberStep (radix : UInt32) (count : Nat) (cs : List Char) : Step → Prop
  | scale {value d : UInt32} (h : Round radix count 0 cs value d) :
    NumberStep radix count cs (.scale value radix)
  | extend {value d : UInt32} (h : Round radix count 0 cs value d) :
    NumberStep radix count cs (.extend value radix d)
  | outcome : NumberStep radix count cs (.digits radix count cs (readDigits radix count 0 cs))

/-- The steps of the escape that has `c` behind its backslash, and then `cs`. -/
inductive EscapeStep (c : Char) (cs : List Char) : Step → Prop
  | number {radix : UInt32} {count : Nat} {s : Step} (h : NumberStep radix count cs s)
    (hc : AsksDigits c radix.toNat count) : EscapeStep c cs s
  | octalScale {high : UInt32} (hc : digitValue 8 c = some high) : EscapeStep c cs (.scale high 64)
  | octalExtend {high low : UInt32} {rest : List Char} (hc : digitValue 8 c = some high)
    (hlow : readDigits 8 2 0 cs = some (low, rest)) : EscapeStep c cs (.extend high 64 low)
  | octalNarrow {high low : UInt32} {rest : List Char} (hc : digitValue 8 c = some high)
    (hlow : readDigits 8 2 0 cs = some (low, rest)) (hlt : high * 64 + low < 256) :
    EscapeStep c cs (.narrow (high * 64 + low))
  | hexNarrow {value : UInt32} {rest : List Char} (hc : c = 'x')
    (hvalue : readDigits 16 2 0 cs = some (value, rest)) : EscapeStep c cs (.narrow value)

/-- Reading the body takes the step, in an escape that stands behind a row of elements. -/
def Takes (body : List Char) (s : Step) : Prop :=
  ∃ run c cs, body = run ++ '\\' :: c :: cs ∧ IsWellFormed run ∧ EscapeStep c cs s

section
variable {radix start value d high : UInt32} {count : Nat} {c : Char} {cs : List Char} {s : Step}

theorem not_round_zero : ¬ Round radix 0 start cs value d := by
  rintro ⟨k, hk, _⟩
  cases hk

theorem not_round_nil : ¬ Round radix count start [] value d := by
  rintro ⟨k, _, x, tail, hread, _⟩
  cases k <;> cases hread

/-- The first round begins with `start`, and the others go on from what it makes of it. -/
theorem round_cons : Round radix (count + 1) start (c :: cs) value d ↔ ∃ e,
    digitValue radix c = some e ∧
      (value = start ∧ d = e ∨ Round radix count (start * radix + e) cs value d) := by
  constructor
  · rintro ⟨k, hk, x, tail, hread, hd⟩
    cases k with
    | zero =>
      cases hread
      exact ⟨d, hd, .inl ⟨rfl, rfl⟩⟩
    | succ k =>
      rw [readDigits] at hread
      split at hread
      · rename_i e he
        exact ⟨e, he, .inr ⟨k, Nat.lt_of_succ_lt_succ hk, x, tail, hread, hd⟩⟩
      · cases hread
  · rintro ⟨e, he, ⟨rfl, rfl⟩ | ⟨k, hk, x, tail, hread, hd⟩⟩
    · exact ⟨0, Nat.succ_pos _, c, cs, rfl, he⟩
    · refine ⟨k + 1, Nat.succ_lt_succ hk, x, tail, ?_, hd⟩
      rw [readDigits, he]
      exact hread

theorem mem_recordDigits : s ∈ (recordDigits radix count start cs).steps ↔
    ∃ value d, Round radix count start cs value d ∧
      (s = .scale value radix ∨ s = .extend value radix d) := by
  -- The induction goes digit by digit, so what is read already moves into the start of the rest.
  induction count generalizing start cs with
  | zero => simp [recordDigits, not_round_zero]
  | succ count ih =>
    cases cs with
    | nil => simp [recordDigits, not_round_nil]
    | cons c cs =>
      rw [recordDigits]
      cases hc : digitValue radix c with
      | none => simp [round_cons, hc]
      | some e =>
        simp only [Recorded.steps_bind, steps_note, List.mem_append, List.mem_singleton, ih,
          round_cons, hc, Option.some.injEq, exists_eq_left']
        constructor
        · rintro (h | h | ⟨value, d, hround, hs⟩)
          · exact ⟨start, e, .inl ⟨rfl, rfl⟩, .inl h⟩
          · exact ⟨start, e, .inl ⟨rfl, rfl⟩, .inr h⟩
          · exact ⟨value, d, .inr hround, hs⟩
        · rintro ⟨value, d, ⟨rfl, rfl⟩ | hround, hs⟩
          · exact hs.imp_right .inl
          · exact .inr (.inr ⟨value, d, hround, hs⟩)

theorem mem_recordNumber :
    s ∈ (recordNumber radix count cs).steps ↔ NumberStep radix count cs s := by
  have hsteps : (recordNumber radix count cs).steps = (recordDigits radix count 0 cs).steps ++
      [.digits radix count cs (readDigits radix count 0 cs)] := by
    simp [recordNumber]
  rw [hsteps, List.mem_append, List.mem_singleton, mem_recordDigits]
  constructor
  · rintro (⟨value, d, hround, rfl | rfl⟩ | rfl)
    · exact .scale hround
    · exact .extend hround
    · exact .outcome
  · rintro (hround | hround | _)
    · exact .inl ⟨_, _, hround, .inl rfl⟩
    · exact .inl ⟨_, _, hround, .inr rfl⟩
    · exact .inr rfl

theorem mem_recordUnicode {mark : Char} :
    s ∈ (recordUnicode mark count cs).steps ↔ NumberStep 16 count cs s := by
  rw [← mem_recordNumber, recordUnicode, Recorded.steps_bind, result_recordNumber]
  cases readDigits 16 count 0 cs with
  | none => simp
  | some reading => cases hcode : scalar? reading.1 <;> simp [hcode]

theorem mem_recordHex : s ∈ (recordHex cs).steps ↔ NumberStep 16 2 cs s ∨
    ∃ value rest, readDigits 16 2 0 cs = some (value, rest) ∧ s = .narrow value := by
  rw [← mem_recordNumber, recordHex, Recorded.steps_bind, result_recordNumber]
  cases readDigits 16 2 0 cs with
  | none => simp
  | some reading =>
    obtain ⟨value, rest⟩ := reading
    simp

theorem mem_recordOctal : s ∈ (recordOctal c high cs).steps ↔
    s = .scale high 64 ∨ NumberStep 8 2 cs s ∨
      ∃ low rest, readDigits 8 2 0 cs = some (low, rest) ∧
        (s = .extend high 64 low ∨ high * 64 + low < 256 ∧ s = .narrow (high * 64 + low)) := by
  rw [← mem_recordNumber, recordOctal]
  simp only [Recorded.steps_bind, result_recordNumber, steps_note]
  cases readDigits 8 2 0 cs with
  | none => simp
  | some reading =>
    obtain ⟨low, rest⟩ := reading
    by_cases hlt : high * 64 + low < 256 <;> simp [hlt]

theorem recordEscape_octal (hc : digitValue 8 c = some high) :
    recordEscape (c :: cs) = recordOctal c high cs := by
  obtain ⟨hsimple, hx, hu, hU⟩ := unmarked_of_digit hc
  rw [recordEscape, hsimple]
  simp only [if_neg hx, if_neg hu, if_neg hU, hc]

theorem recordEscape_unicode (hmark : (c, count) ∈ unicodeMarks) :
    recordEscape (c :: cs) = recordUnicode c count cs := by
  simp only [unicodeMarks, List.mem_cons, Prod.mk.injEq, List.not_mem_nil, or_false] at hmark
  rcases hmark with ⟨rfl, rfl⟩ | ⟨rfl, rfl⟩ <;> rfl

theorem escapeStep_of_mem (h : s ∈ (recordEscape (c :: cs)).steps) : EscapeStep c cs s := by
  rw [recordEscape] at h
  split at h
  · cases h
  split at h
  · rename_i hx
    subst hx
    obtain hnumber | ⟨value, rest, hvalue, rfl⟩ := mem_recordHex.1 h
    · exact .number hnumber .hex
    · exact .hexNarrow rfl hvalue
  split at h
  · rename_i hu
    subst hu
    exact .number (mem_recordUnicode.1 h) (.unicode (by decide))
  split at h
  · rename_i hU
    subst hU
    exact .number (mem_recordUnicode.1 h) (.unicode (by decide))
  split at h
  · rename_i high hc
    obtain rfl | hnumber | ⟨low, rest, hlow, rfl | ⟨hlt, rfl⟩⟩ := mem_recordOctal.1 h
    · exact .octalScale hc
    · exact .number hnumber (.octal (isDigit_of_digitValue hc))
    · exact .octalExtend hc hlow
    · exact .octalNarrow hc hlow hlt
  · cases h

theorem EscapeStep.mem (h : EscapeStep c cs s) : s ∈ (recordEscape (c :: cs)).steps := by
  cases h with
  | @number radix count _ h hc =>
    -- The character behind the backslash settles the radix, and with it what reads the digits.
    generalize hradix : radix.toNat = r at hc
    cases hc with
    | octal hd =>
      obtain rfl : radix = 8 := UInt32.toNat_inj.1 hradix
      obtain ⟨high, hhigh, _⟩ := exists_octalValue hd
      rw [recordEscape_octal hhigh]
      exact mem_recordOctal.2 (.inr (.inl h))
    | hex =>
      obtain rfl : radix = 16 := UInt32.toNat_inj.1 hradix
      exact mem_recordHex.2 (.inl h)
    | unicode hmark =>
      obtain rfl : radix = 16 := UInt32.toNat_inj.1 hradix
      rw [recordEscape_unicode hmark]
      exact mem_recordUnicode.2 h
  | octalScale hc =>
    rw [recordEscape_octal hc]
    exact mem_recordOctal.2 (.inl rfl)
  | octalExtend hc hlow =>
    rw [recordEscape_octal hc]
    exact mem_recordOctal.2 (.inr (.inr ⟨_, _, hlow, .inl rfl⟩))
  | octalNarrow hc hlow hlt =>
    rw [recordEscape_octal hc]
    exact mem_recordOctal.2 (.inr (.inr ⟨_, _, hlow, .inr ⟨hlt, rfl⟩⟩))
  | hexNarrow hc hvalue =>
    subst hc
    exact mem_recordHex.2 (.inr ⟨_, _, hvalue, rfl⟩)

theorem mem_recordElement : s ∈ (recordElement c cs).steps ↔
    ∃ x xs, c = '\\' ∧ cs = x :: xs ∧ EscapeStep x xs s := by
  constructor
  · intro h
    rw [recordElement] at h
    split at h
    · cases h
    split at h
    · cases h
    split at h
    · rename_i hc
      cases cs with
      | nil => cases h
      | cons x xs => exact ⟨x, xs, hc, rfl, escapeStep_of_mem h⟩
    · cases h
  · rintro ⟨x, xs, rfl, rfl, h⟩
    exact h.mem

end

section
variable {c : Char} {cs run rest : List Char} {bytes : List UInt8} {err : LiteralError} {s : Step}

theorem steps_recordBody_of_ok (h : element c cs = .ok (bytes, rest)) :
    (recordBody (c :: cs)).steps = (recordElement c cs).steps ++ (recordBody rest).steps := by
  rw [← result_recordElement] at h
  rw [recordBody]
  split
  · rename_i heq
    cases h.symm.trans heq
  · rename_i heq
    cases h.symm.trans heq
    rfl

theorem mem_recordBody_of_element (h : s ∈ (recordElement c cs).steps) :
    s ∈ (recordBody (c :: cs)).steps := by
  rw [recordBody]
  split
  · exact h
  · exact List.mem_append_left _ h

/-- Behind a row of elements the reading goes on as from the beginning. -/
theorem DenotesAll.mem_recordBody (hrun : DenotesAll run bytes) (h : s ∈ (recordBody rest).steps) :
    s ∈ (recordBody (run ++ rest)).steps := by
  induction hrun with
  | nil => exact h
  | @cons e body _ _ he _ ih =>
    obtain ⟨c, cs, rfl, hread⟩ := element_of_denotes he (body ++ rest)
    rw [List.append_assoc, List.cons_append, steps_recordBody_of_ok hread]
    exact List.mem_append_right _ ih

theorem takes_of_mem_element (h : s ∈ (recordElement c cs).steps) : Takes (c :: cs) s := by
  obtain ⟨x, xs, rfl, rfl, hs⟩ := mem_recordElement.1 h
  exact ⟨[], x, xs, rfl, ⟨[], .nil⟩, hs⟩

theorem takes_of_rest (hread : element c cs = .ok (bytes, rest)) (h : Takes rest s) :
    Takes (c :: cs) s := by
  have hverdict := verdict_element c cs
  rw [hread] at hverdict
  cases hverdict with
  | @element e _ _ hcs he =>
    obtain ⟨run, x, xs, rfl, ⟨more, hrun⟩, hs⟩ := h
    exact ⟨e ++ run, x, xs, by rw [hcs, List.append_assoc], ⟨_, .cons he hrun⟩, hs⟩

/-- **The steps of a body** are those of the escapes that stand behind a row of elements. -/
theorem mem_recordBody {body : List Char} : s ∈ (recordBody body).steps ↔ Takes body s := by
  constructor
  · intro h
    fun_induction recordBody body with
    | case1 => cases h
    | case2 => exact takes_of_mem_element h -- The steps before a fault count as well.
    | case3 c cs bytes rest hread ih =>
      rw [result_recordElement] at hread
      rcases List.mem_append.1 h with h | h
      · exact takes_of_mem_element h
      · exact takes_of_rest hread (ih h)
  · rintro ⟨run, c, cs, rfl, ⟨bytes, hrun⟩, hs⟩
    exact hrun.mem_recordBody (mem_recordBody_of_element (mem_recordElement.2 ⟨c, cs, rfl, rfl, hs⟩))

end

/-! ## Nothing is lost -/

theorem Step.exact_scale {value radix : UInt32} (h : value.toNat * radix.toNat < 2 ^ 32) :
    (Step.scale value radix).Exact := by
  rw [Step.Exact, UInt32.toNat_mul, Nat.mod_eq_of_lt h]

theorem Step.exact_narrow {value : UInt32} (h : value.toNat < 2 ^ 8) :
    (Step.narrow value).Exact := by
  rw [Step.Exact, UInt32.toNat_toUInt8, Nat.mod_eq_of_lt h]

/-- The digits that an escape asks for have room in 32 bits. -/
theorem AsksDigits.fits {c : Char} {radix : UInt32} {count : Nat}
    (h : AsksDigits c radix.toNat count) : radix ≤ 16 ∧ radix.toNat ^ count ≤ 2 ^ 32 := by
  rw [UInt32.le_iff_toNat_le]
  generalize radix.toNat = r at h
  cases h with
  | octal _ => decide
  | hex => decide
  | unicode hmark =>
    exact ⟨Nat.le_refl _, Nat.pow_le_pow_right (by decide) (le_of_mem_unicodeMarks hmark)⟩

section
variable {radix value d : UInt32} {count : Nat} {c : Char} {cs : List Char} {s : Step}

/-- What is read after a round has room, since it is a numeral with no more places than were asked
for. -/
theorem Round.lt_word (h : Round radix count 0 cs value d) (hradix : radix ≤ 16)
    (hfits : radix.toNat ^ count ≤ 2 ^ 32) : value.toNat * radix.toNat + d.toNat < 2 ^ 32 := by
  obtain ⟨k, hk, x, tail, hread, hd⟩ := h
  have hdigit : d.toNat < radix.toNat := (isDigit_of_digitValue hd).1
  -- The digit of this round is one of those asked for, so its place counts towards `count`.
  have hpow : radix.toNat ^ (k + 1) ≤ 2 ^ 32 :=
    Nat.le_trans (Nat.pow_le_pow_right (by omega) hk) hfits
  have hroom : radix.toNat ^ k ≤ 2 ^ 32 :=
    Nat.le_trans (Nat.pow_le_pow_right (by omega) (Nat.le_succ k)) hpow
  obtain ⟨front, _, hnumeral⟩ := (readDigits_zero_iff hradix hroom).1 hread
  calc value.toNat * radix.toNat + d.toNat
      < value.toNat * radix.toNat + radix.toNat := Nat.add_lt_add_left hdigit _
    _ = (value.toNat + 1) * radix.toNat := by rw [Nat.succ_mul]
    _ ≤ radix.toNat ^ k * radix.toNat := Nat.mul_le_mul_right _ hnumeral.lt_pow
    _ = radix.toNat ^ (k + 1) := by rw [Nat.pow_succ]
    _ ≤ 2 ^ 32 := hpow

theorem NumberStep.exact (h : NumberStep radix count cs s) (hradix : radix ≤ 16)
    (hfits : radix.toNat ^ count ≤ 2 ^ 32) : s.Exact := by
  cases h with
  | scale hround =>
    exact Step.exact_scale (Nat.lt_of_le_of_lt (Nat.le_add_right _ _) (hround.lt_word hradix hfits))
  | extend hround => exact toNat_mul_add (hround.lt_word hradix hfits)
  | outcome =>
    intro value rest
    rw [readDigits_zero_iff hradix hfits]
    constructor
    · rintro ⟨front, hcs, hnumeral⟩
      exact ⟨front, hcs, hnumeral.length_eq, hnumeral, hnumeral.lt_pow⟩
    · rintro ⟨front, hcs, _, hnumeral, _⟩
      exact ⟨front, hcs, hnumeral⟩

/-- **No step of an escape** loses anything. -/
theorem EscapeStep.exact (h : EscapeStep c cs s) : s.Exact := by
  cases h with
  | number h hc => exact h.exact hc.fits.1 hc.fits.2
  | @octalScale high hc =>
    have hhigh : high.toNat < 8 := (isDigit_of_digitValue hc).1
    have hroom : high.toNat * 64 < 2 ^ 32 := by omega
    exact Step.exact_scale hroom
  | @octalExtend high low rest hc hlow =>
    have hhigh : high.toNat < 8 := (isDigit_of_digitValue hc).1
    obtain ⟨front, _, hnumeral⟩ := readOctal_iff.1 hlow
    have hlow := hnumeral.lt_pow
    have hroom : high.toNat * 64 + low.toNat < 2 ^ 32 := by omega
    exact toNat_mul_add hroom
  | octalNarrow _ _ hlt => exact Step.exact_narrow (UInt32.lt_iff_toNat_lt.1 hlt)
  | hexNarrow _ hvalue =>
    obtain ⟨front, _, hnumeral⟩ := (readHex_iff (by decide)).1 hvalue
    exact Step.exact_narrow hnumeral.lt_pow

end

/-- **Nothing is lost in the arithmetic of escapes.** Reading a body with a record of its steps is
reading it. The record holds the products, sums and bytes of all escapes that the reading comes to,
and the numbers read from digits. All of them are what they are without bounds, and a number is the
value of as many digits as it was asked for. -/
theorem unescape_exact (body : List Char) :
    (recordBody body).result = unescape body ∧
    (∀ s, s ∈ (recordBody body).steps ↔ Takes body s) ∧
    ∀ s ∈ (recordBody body).steps, s.Exact := by
  refine ⟨result_recordBody body, fun s => mem_recordBody, fun s hs => ?_⟩
  obtain ⟨run, c, cs, _, _, hstep⟩ := mem_recordBody.1 hs
  exact hstep.exact

/-- Two digits that fill a byte, and then eight that fill 32 bits. -/
def fullBody : List Char := "\\xff\\UFFFFFFFF".toList

theorem fullBody_exact :
    (Step.narrow 0xFF ∈ (recordBody fullBody).steps ∧ (0xFF : UInt32).toUInt8.toNat = 0xFF) ∧
    (Step.extend 0xFFFFFFF 16 15 ∈ (recordBody fullBody).steps ∧
      (0xFFFFFFF * 16 + 15 : UInt32).toNat = 0xFFFFFFF * 16 + 15) ∧
    unescape fullBody = .error (.badCodePoint 0xFFFFFFFF) := by
  have hsteps : Step.narrow 0xFF ∈ (recordBody fullBody).steps ∧
      Step.extend 0xFFFFFFF 16 15 ∈ (recordBody fullBody).steps := by decide +kernel
  have hresult : (recordBody fullBody).result = .error (.badCodePoint 0xFFFFFFFF) := by
    decide +kernel
  obtain ⟨heq, _, hexact⟩ := unescape_exact fullBody
  exact ⟨⟨hsteps.1, hexact _ hsteps.1⟩, ⟨hsteps.2, hexact _ hsteps.2⟩, heq.symm.trans hresult⟩

end Understudy.Go.StringLiteral
