import Understudy.Proofs.Core
import Understudy.Proofs.Go.Spelling
import Understudy.Text.LetterCase

/-!
# Letter case of single characters

What names rely on in the case tables: a lower-case form is never empty, it brings in no punctuation
of ASCII, and the letters and digits of ASCII behave as one expects.

* `lower_ne_nil`, `eq_of_mem_lower`: all characters, from the tables.
* `holds_of_ascii`: a property of characters, tested on those of ASCII.
* `lower_of_ascii`, `exists_capital`, `lower_of_small`: the characters of ASCII.
-/

set_option autoImplicit false

namespace Understudy.Text

/-! ## All characters -/

namespace LetterCase

section
variable {sequences : List (Nat × List Nat)} {runs : List Run} {bound n m : Nat} {c x : Char}

theorem image_above (hruns : ∀ r ∈ runs, bound < r.target) (h : image runs n = some m) :
    bound < m := by
  fun_induction image runs n with
  | case1 => cases h
  | case2 => cases h
  | case3 r rest n _ _ =>
    have htarget := hruns r List.mem_cons_self
    obtain rfl := Option.some.inj h
    omega
  | case4 r rest n _ _ ih => exact ih (fun r hr => hruns r (List.mem_cons_of_mem _ hr)) h

/-- A character maps to itself or to characters that the tables list. -/
theorem mem_mapChar (hsequences : ∀ s ∈ sequences, ∀ n ∈ s.2, bound < n)
    (hruns : ∀ r ∈ runs, bound < r.target) (h : x ∈ mapChar sequences runs c) :
    x = c ∨ ∃ n, bound < n ∧ x = Char.ofNat n := by
  unfold mapChar at h
  split at h
  · rename_i codes hcodes
    obtain ⟨n, hn, rfl⟩ := List.mem_map.1 h
    exact .inr ⟨n, hsequences _ (mem_of_lookup hcodes) n hn, rfl⟩
  · split at h
    · rename_i n hn
      exact .inr ⟨n, image_above hruns hn, List.mem_singleton.1 h⟩
    · exact .inl (List.mem_singleton.1 h)

theorem mapChar_ne_nil (hsequences : ∀ s ∈ sequences, s.2 ≠ []) (c : Char) :
    mapChar sequences runs c ≠ [] := by
  unfold mapChar
  split
  · rename_i codes hcodes
    simpa using hsequences _ (mem_of_lookup hcodes)
  · split <;> simp

end

theorem lowerRuns_above : ∀ r ∈ lowerRuns, 0x5f < r.target := by decide +kernel

theorem lowerSequences_above : ∀ s ∈ lowerSequences, s.2 ≠ [] ∧ ∀ n ∈ s.2, 0x5f < n := by decide

end LetterCase

open LetterCase

section
variable {c x : Char}

theorem lower_ne_nil (c : Char) : lower c ≠ [] :=
  mapChar_ne_nil (fun s hs => (lowerSequences_above s hs).1) c

/-- A character up to the low line stands in the lower case of no character but itself. -/
theorem eq_of_mem_lower (h : x ∈ lower c) (hpos : 0 < x.toNat) (hlow : x.toNat ≤ 0x5f) : x = c := by
  obtain rfl | ⟨n, hn, rfl⟩ :=
    mem_mapChar (fun s hs => (lowerSequences_above s hs).2) lowerRuns_above h
  · rfl
  · -- A number that is no code point gives the null character.
    have hcode : (Char.ofNat n).toNat = n ∨ (Char.ofNat n).toNat = 0 := by
      by_cases hvalid : n.isValidChar
      · exact .inl (congrArg Char.toNat (dif_pos hvalid))
      · exact .inr (congrArg Char.toNat (dif_neg hvalid))
    omega

end

/-! ## Characters of ASCII -/

section
variable {c : Char}

/-- What holds of the first 128 characters, one by one, holds of all of ASCII. -/
@[elab_as_elim]
theorem holds_of_ascii {p : Char → Prop} (h : ∀ n < 128, p (Char.ofNat n)) (hc : c.toNat < 128) :
    p c := by
  have hcode := h c.toNat hc
  rwa [Char.ofNat_toNat] at hcode

theorem lower_of_ascii (hc : c.toNat < 128) : ∀ x ∈ lower c, isUpper x = false ∧ lower x = [x] := by
  have hall : (lower c).all (fun x => !isUpper x && lower x == [x]) = true :=
    holds_of_ascii (by decide +kernel) hc
  simpa using hall

/-- A small letter has a capital, and is what the capital becomes in lower case. -/
theorem exists_capital (h : c.isLower = true) :
    ∃ capital, upper c = [capital] ∧ isUpper capital = true ∧ lower capital = [c] := by
  have hascii : c.toNat < 128 := by
    have hcode := Go.isLower_iff.1 h
    omega
  have hall : c.isLower = true →
      upper c = [c.toUpper] ∧ isUpper c.toUpper = true ∧ lower c.toUpper = [c] :=
    holds_of_ascii (by decide +kernel) hascii
  exact ⟨c.toUpper, hall h⟩

/-- Small letters and digits are their own lower case, and are not upper case. -/
theorem lower_of_small (h : (c.isLower || c.isDigit) = true) :
    lower c = [c] ∧ isUpper c = false ∧ (isLower c || c.isDigit) = true := by
  have hascii : c.toNat < 128 := by
    rw [Bool.or_eq_true, Go.isLower_iff, Go.isDigit_iff] at h
    omega
  have hall : (c.isLower || c.isDigit) = true →
      lower c = [c] ∧ isUpper c = false ∧ (isLower c || c.isDigit) = true :=
    holds_of_ascii (by decide +kernel) hascii
  exact hall h

end

end Understudy.Text
