import Mathlib.Data.List.Forall2
import Mathlib.Data.Nat.Digits.Defs
import Understudy.Go.StringLiteral

/-!
# Numbers in escapes

An escape can be a number: digits of radix 8 or 16, as many as the escape asks for. They are read
one by one into 32 bits, and that is enough for all of them.

* `IsDigit`, `IsNumeral`: digits and rows of digits with their values, without bounds.
* `readDigits_eq_some_iff`: what is read is the value of the digits, as many as asked for.
* `short_of_readDigits`: where too few digits end.
-/

set_option autoImplicit false

namespace Understudy.Go.StringLiteral

/-! ## Digits and their values -/

/-- The digits by their values, in lower case. -/
def lowerDigits : List Char :=
  ['0', '1', '2', '3', '4', '5', '6', '7', '8', '9', 'a', 'b', 'c', 'd', 'e', 'f']

/-- The digits by their values, in upper case. -/
def upperDigits : List Char :=
  ['0', '1', '2', '3', '4', '5', '6', '7', '8', '9', 'A', 'B', 'C', 'D', 'E', 'F']

/-- The character is the digit of value `d` in the radix, in either case. -/
def IsDigit (radix : Nat) (c : Char) (d : Nat) : Prop :=
  d < radix ∧ (lowerDigits[d]? = some c ∨ upperDigits[d]? = some c)

/-- The characters are `count` digits in the radix, the highest place first, and `v` is their
value. -/
def IsNumeral (radix count : Nat) (cs : List Char) (v : Nat) : Prop :=
  ∃ ds : List Nat, List.Forall₂ (IsDigit radix) cs ds ∧ ds.length = count ∧
    Nat.ofDigits radix ds.reverse = v

/-- The characters are digits in the radix, and fewer than `count` of them. -/
def IsShort (radix count : Nat) (cs : List Char) : Prop :=
  cs.length < count ∧ ∀ c ∈ cs, ∃ d, IsDigit radix c d

/-! ## Single digits -/

theorem le_of_hexValue {c : Char} {d : UInt32} (h : hexValue c = some d) : c ≤ 'f' := by
  rw [hexValue] at h
  split at h
  · rename_i hc
    exact Char.le_trans hc.2 (by decide)
  · split at h
    · rename_i hc
      exact hc.2
    · split at h
      · rename_i hc
        exact Char.le_trans hc.2 (by decide)
      · cases h

theorem isDigit_of_hexValue {c : Char} {d : UInt32} (h : hexValue c = some d) :
    IsDigit 16 c d.toNat := by
  have hlt : c.toNat < 103 := Nat.lt_succ_of_le (UInt32.le_iff_toNat_le.1 (le_of_hexValue h))
  have hall : ∀ n < 103, (hexValue (Char.ofNat n)).all (fun d => decide (d.toNat < 16 ∧
      (lowerDigits[d.toNat]? = some (Char.ofNat n) ∨ upperDigits[d.toNat]? = some (Char.ofNat n))))
      = true := by
    decide
  have hc := hall c.toNat hlt
  rw [Char.ofNat_toNat, h] at hc
  exact of_decide_eq_true (p := _ ∧ _) hc

theorem hexValue_of_isDigit {c : Char} {d : Nat} (h : IsDigit 16 c d) :
    hexValue c = some (UInt32.ofNat d) := by
  have hall : ∀ d < 16, lowerDigits[d]?.all (fun c => hexValue c == some (UInt32.ofNat d)) = true ∧
      upperDigits[d]?.all (fun c => hexValue c == some (UInt32.ofNat d)) = true := by decide
  obtain ⟨hlower, hupper⟩ := hall d h.1
  rcases h.2 with h | h
  · rw [h] at hlower
    exact eq_of_beq hlower
  · rw [h] at hupper
    exact eq_of_beq hupper

section
variable {radix : UInt32} {c : Char}

theorem isDigit_of_digitValue {d : UInt32} (h : digitValue radix c = some d) :
    IsDigit radix.toNat c d.toNat := by
  rw [digitValue] at h
  split at h
  · rename_i e he
    split at h
    · rename_i hlt
      cases h
      exact ⟨UInt32.lt_iff_toNat_lt.1 hlt, (isDigit_of_hexValue he).2⟩
    · cases h
  · cases h

theorem exists_digitValue {d : Nat} (hradix : radix ≤ 16) (h : IsDigit radix.toNat c d) :
    ∃ e : UInt32, digitValue radix c = some e ∧ e.toNat = d := by
  have hlt : d < 16 := Nat.lt_of_lt_of_le h.1 (UInt32.le_iff_toNat_le.1 hradix)
  have hd : (UInt32.ofNat d).toNat = d := UInt32.toNat_ofNat_of_lt' (Nat.lt_trans hlt (by decide))
  refine ⟨UInt32.ofNat d, ?_, hd⟩
  rw [digitValue, hexValue_of_isDigit ⟨hlt, h.2⟩]
  exact if_pos (UInt32.lt_iff_toNat_lt.2 (by rw [hd]; exact h.1))

end

/-! ## Rows of digits -/

section
variable {radix count v : Nat} {cs : List Char}

theorem isNumeral_zero : IsNumeral radix 0 cs v ↔ cs = [] ∧ v = 0 := by
  constructor
  · rintro ⟨ds, hds, hlen, rfl⟩
    obtain rfl := List.length_eq_zero_iff.1 hlen
    cases hds
    exact ⟨rfl, rfl⟩
  · rintro ⟨rfl, rfl⟩
    exact ⟨[], .nil, rfl, rfl⟩

/-- The first digit of a numeral stands in the highest place. -/
theorem isNumeral_succ : IsNumeral radix (count + 1) cs v ↔ ∃ c d rest w, cs = c :: rest ∧
    IsDigit radix c d ∧ IsNumeral radix count rest w ∧ v = d * radix ^ count + w := by
  constructor
  · rintro ⟨ds, hds, hlen, rfl⟩
    cases hds with
    | nil => cases hlen
    | @cons c d rest ds hd hrest =>
      have hlen : ds.length = count := Nat.succ.inj hlen
      refine ⟨c, d, rest, _, rfl, hd, ⟨ds, hrest, hlen, rfl⟩, ?_⟩
      rw [Nat.ofDigits_reverse_cons, hlen, Nat.add_comm, Nat.mul_comm]
  · rintro ⟨c, d, rest, w, rfl, hd, ⟨ds, hds, hlen, rfl⟩, rfl⟩
    refine ⟨d :: ds, .cons hd hds, by rw [List.length_cons, hlen], ?_⟩
    rw [Nat.ofDigits_reverse_cons, hlen, Nat.add_comm, Nat.mul_comm]

theorem IsNumeral.length_eq (h : IsNumeral radix count cs v) : cs.length = count := by
  obtain ⟨ds, hds, hlen, _⟩ := h
  rw [hds.length_eq, hlen]

theorem IsNumeral.lt_pow (h : IsNumeral radix count cs v) : v < radix ^ count := by
  induction count generalizing cs v with
  | zero =>
    obtain ⟨_, rfl⟩ := isNumeral_zero.1 h
    exact Nat.one_pos
  | succ count ih =>
    obtain ⟨c, d, rest, w, _, hd, hw, rfl⟩ := isNumeral_succ.1 h
    calc d * radix ^ count + w < d * radix ^ count + radix ^ count := by
          exact Nat.add_lt_add_left (ih hw) _
      _ = (d + 1) * radix ^ count := by rw [Nat.succ_mul]
      _ ≤ radix * radix ^ count := Nat.mul_le_mul_right _ hd.1
      _ = radix ^ (count + 1) := by rw [Nat.pow_succ, Nat.mul_comm]

end

/-- A product and a sum in 32 bits are exact if their value has room there. -/
theorem toNat_mul_add {a b c : UInt32} (h : a.toNat * b.toNat + c.toNat < 2 ^ 32) :
    (a * b + c).toNat = a.toNat * b.toNat + c.toNat := by
  rw [UInt32.toNat_add, UInt32.toNat_mul, Nat.mod_add_mod, Nat.mod_eq_of_lt h]

/-- One digit more, in 32 bits, is exact as long as the digits that are left have room. -/
theorem toNat_step {radix value d : UInt32} {count : Nat}
    (hfits : (value.toNat + 1) * radix.toNat ^ (count + 1) ≤ 2 ^ 32) (hd : d.toNat < radix.toNat) :
    (value * radix + d).toNat = value.toNat * radix.toNat + d.toNat ∧
      ((value * radix + d).toNat + 1) * radix.toNat ^ count ≤ 2 ^ 32 := by
  have hpow : 0 < radix.toNat ^ count := Nat.pow_pos (by omega)
  have hnext : (value.toNat * radix.toNat + d.toNat + 1) * radix.toNat ^ count ≤ 2 ^ 32 := by
    calc (value.toNat * radix.toNat + d.toNat + 1) * radix.toNat ^ count
        ≤ ((value.toNat + 1) * radix.toNat) * radix.toNat ^ count := by
          refine Nat.mul_le_mul_right _ ?_
          rw [Nat.succ_mul]
          omega
      _ = (value.toNat + 1) * radix.toNat ^ (count + 1) := by
          rw [Nat.pow_succ, Nat.mul_assoc, Nat.mul_comm radix.toNat]
      _ ≤ 2 ^ 32 := hfits
  have hlt : value.toNat * radix.toNat + d.toNat < 2 ^ 32 :=
    Nat.lt_of_lt_of_le (Nat.lt_succ_self _) (Nat.le_trans (Nat.le_mul_of_pos_right _ hpow) hnext)
  have hstep := toNat_mul_add hlt
  exact ⟨hstep, by rwa [hstep]⟩

/-- **Digits are read exactly**: as many as asked for, with their value in 32 bits, whatever follows
them. -/
theorem readDigits_eq_some_iff {radix : UInt32} (hradix : radix ≤ 16) {count : Nat}
    {value code : UInt32} {cs rest : List Char}
    (hfits : (value.toNat + 1) * radix.toNat ^ count ≤ 2 ^ 32) :
    readDigits radix count value cs = some (code, rest) ↔ ∃ front v, cs = front ++ rest ∧
      IsNumeral radix.toNat count front v ∧
      code.toNat = value.toNat * radix.toNat ^ count + v := by
  -- The room for the digits that are left is the invariant: each digit takes its share of it.
  induction count generalizing value cs with
  | zero =>
    rw [readDigits]
    constructor
    · intro h
      cases h
      exact ⟨[], 0, rfl, isNumeral_zero.2 ⟨rfl, rfl⟩, by simp⟩
    · rintro ⟨front, v, rfl, hnumeral, hcode⟩
      obtain ⟨rfl, rfl⟩ := isNumeral_zero.1 hnumeral
      rw [Nat.pow_zero, Nat.mul_one, Nat.add_zero] at hcode
      rw [UInt32.toNat_inj.1 hcode, List.nil_append]
  | succ count ih =>
    cases cs with
    | nil =>
      refine iff_of_false (by simp [readDigits]) ?_
      rintro ⟨front, v, hcs, hnumeral, _⟩
      obtain ⟨rfl, _⟩ := List.append_eq_nil_iff.1 hcs.symm
      cases hnumeral.length_eq
    | cons c cs =>
      rw [readDigits]
      cases hvalue : digitValue radix c with
      | none =>
        refine iff_of_false (by simp) ?_
        rintro ⟨front, v, hcs, hnumeral, _⟩
        obtain ⟨c, d, front, w, rfl, hd, _, _⟩ := isNumeral_succ.1 hnumeral
        obtain ⟨rfl, _⟩ := List.cons.inj hcs
        obtain ⟨e, he, _⟩ := exists_digitValue hradix hd
        rw [hvalue] at he
        cases he
      | some d =>
        have hd := isDigit_of_digitValue hvalue
        obtain ⟨hstep, hnext⟩ := toNat_step hfits hd.1
        rw [ih hnext, hstep]
        constructor
        · rintro ⟨front, w, rfl, hnumeral, hcode⟩
          refine ⟨c :: front, _, rfl, isNumeral_succ.2 ⟨c, _, front, w, rfl, hd, hnumeral, rfl⟩, ?_⟩
          rw [hcode, Nat.pow_succ]
          ring
        · rintro ⟨front, v, hcs, hnumeral, hcode⟩
          obtain ⟨c, e, front, w, rfl, he, hrest, rfl⟩ := isNumeral_succ.1 hnumeral
          obtain ⟨rfl, rfl⟩ := List.cons.inj hcs
          obtain ⟨d', hd', rfl⟩ := exists_digitValue hradix he
          cases hvalue.symm.trans hd'
          refine ⟨front, w, rfl, hrest, ?_⟩
          rw [hcode, Nat.pow_succ]
          ring

theorem readDigits_zero_iff {radix : UInt32} (hradix : radix ≤ 16) {count : Nat} {code : UInt32}
    {cs rest : List Char} (hfits : radix.toNat ^ count ≤ 2 ^ 32) :
    readDigits radix count 0 cs = some (code, rest) ↔
      ∃ digits, cs = digits ++ rest ∧ IsNumeral radix.toNat count digits code.toNat := by
  rw [readDigits_eq_some_iff hradix (by simpa using hfits)]
  constructor
  · rintro ⟨digits, v, hcs, hnumeral, hcode⟩
    rw [UInt32.toNat_zero, Nat.zero_mul, Nat.zero_add] at hcode
    exact ⟨digits, hcs, by rwa [hcode]⟩
  · rintro ⟨digits, hcs, hnumeral⟩
    exact ⟨digits, _, hcs, hnumeral, by simp⟩

section
variable {count : Nat} {code : UInt32} {c : Char} {cs rest : List Char}

theorem exists_octalValue {d : Nat} (h : IsDigit 8 c d) :
    ∃ e : UInt32, digitValue 8 c = some e ∧ e.toNat = d :=
  exists_digitValue (by decide) h

theorem readOctal_iff : readDigits 8 2 0 cs = some (code, rest) ↔
    ∃ digits, cs = digits ++ rest ∧ IsNumeral 8 2 digits code.toNat :=
  readDigits_zero_iff (by decide) (by decide)

theorem readHex_iff (hcount : count ≤ 8) : readDigits 16 count 0 cs = some (code, rest) ↔
    ∃ digits, cs = digits ++ rest ∧ IsNumeral 16 count digits code.toNat :=
  readDigits_zero_iff (by decide) (Nat.pow_le_pow_right (by decide) hcount)

end

theorem readDigits_of_short {radix : UInt32} {count : Nat} {value : UInt32} {digits : List Char}
    (h : digits.length < count) {x : Char} (hx : digitValue radix x = none) (rest : List Char) :
    readDigits radix count value (digits ++ x :: rest) = none := by
  induction count generalizing value digits with
  | zero => cases h
  | succ count ih =>
    cases digits with
    | nil => rw [List.nil_append, readDigits, hx]
    | cons d digits =>
      rw [List.cons_append, readDigits]
      split
      · exact ih (Nat.lt_of_succ_lt_succ h)
      · rfl

/-- Where the digits end if there are too few of them: at another character, or with the text. -/
theorem short_of_readDigits {radix : UInt32} (hradix : radix ≤ 16) {count : Nat} {value : UInt32}
    {cs : List Char} (h : readDigits radix count value cs = none) :
    (∃ digits x rest, cs = digits ++ x :: rest ∧ IsShort radix.toNat count digits ∧
      ∀ d, ¬ IsDigit radix.toNat x d) ∨ IsShort radix.toNat count cs := by
  induction count generalizing value cs with
  | zero => cases h
  | succ count ih =>
    cases cs with
    | nil => exact .inr ⟨Nat.succ_pos _, by simp⟩
    | cons c cs =>
      rw [readDigits] at h
      split at h
      · rename_i d hd
        have hc : ∃ d, IsDigit radix.toNat c d := ⟨_, isDigit_of_digitValue hd⟩
        have hcons : ∀ {digits}, IsShort radix.toNat count digits →
            IsShort radix.toNat (count + 1) (c :: digits) := fun hdigits =>
          ⟨Nat.succ_lt_succ hdigits.1, List.forall_mem_cons.2 ⟨hc, hdigits.2⟩⟩
        rcases ih h with ⟨digits, x, rest, rfl, hdigits, hx⟩ | hshort
        · exact .inl ⟨c :: digits, x, rest, rfl, hcons hdigits, hx⟩
        · exact .inr (hcons hshort)
      · rename_i hnone
        refine .inl ⟨[], c, cs, rfl, ⟨Nat.succ_pos _, by simp⟩, fun d hd => ?_⟩
        obtain ⟨e, he, _⟩ := exists_digitValue hradix hd
        rw [hnone] at he
        cases he

end Understudy.Go.StringLiteral
