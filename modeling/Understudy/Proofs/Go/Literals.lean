import Understudy.Proofs.Core
import Understudy.Proofs.Go.Files

/-!
# String literals read back

Every escape is longer than what it denotes, in bytes of UTF-8. So a text that stands between double
quotes as it is means itself only if it has no escapes, quotes and line ends.

* `StringLiteral.encodedSize`: the size of a body.
* `StringLiteral.unescape_size`: what a body denotes is smaller than the body, if it has escapes.
* `unquote_quoted_iff`: which texts mean themselves in quotes.
-/

set_option autoImplicit false

namespace Understudy.Go

namespace StringLiteral

/-- The number of bytes of the characters in UTF-8. -/
def encodedSize (cs : List Char) : Nat := (cs.flatMap String.utf8EncodeChar).length

theorem encodedSize_cons (c : Char) (cs : List Char) :
    encodedSize (c :: cs) = c.utf8Size + encodedSize cs := by
  rw [encodedSize, List.flatMap_cons, List.length_append, String.length_utf8EncodeChar]
  rfl

section
variable {cs rest : List Char} {bytes : List UInt8}

theorem readDigits_size {radix code value : UInt32} {count : Nat}
    (h : readDigits radix count value cs = some (code, rest)) :
    count + encodedSize rest ≤ encodedSize cs := by
  induction count generalizing value cs with
  | zero =>
    cases h
    omega
  | succ count ih =>
    cases cs with
    | nil => cases h
    | cons c cs =>
      rw [readDigits] at h
      split at h
      · have hrest := ih h
        have hc := c.utf8Size_pos
        rw [encodedSize_cons]
        omega
      · cases h

theorem octalEscape_size {first : Char} {high : UInt32}
    (h : octalEscape first high cs = .ok (bytes, rest)) :
    bytes.length + encodedSize rest ≤ encodedSize cs := by
  simp only [octalEscape] at h
  split at h
  · cases h
  · rename_i hdigits
    have hsize := readDigits_size hdigits
    split at h
    · cases h
      simp only [List.length_singleton]
      omega
    · cases h

theorem hexEscape_size (h : hexEscape cs = .ok (bytes, rest)) :
    bytes.length + encodedSize rest ≤ encodedSize cs := by
  simp only [hexEscape] at h
  split at h
  · cases h
  · rename_i hdigits
    have hsize := readDigits_size hdigits
    cases h
    simp only [List.length_singleton]
    omega

theorem unicodeEscape_size {mark : Char} {count : Nat} (hcount : 4 ≤ count)
    (h : unicodeEscape mark count cs = .ok (bytes, rest)) :
    bytes.length + encodedSize rest ≤ encodedSize cs := by
  simp only [unicodeEscape] at h
  split at h
  · cases h
  · rename_i hdigits
    have hsize := readDigits_size hdigits
    split at h
    · rename_i c _
      cases h
      have hc := c.utf8Size_le_four
      rw [String.length_utf8EncodeChar]
      omega
    · cases h

/-- An escape denotes no more bytes than stand after its backslash. -/
theorem escapeSequence_size (h : escapeSequence cs = .ok (bytes, rest)) :
    bytes.length + encodedSize rest ≤ encodedSize cs := by
  cases cs with
  | nil => cases h
  | cons c cs =>
    have hc := c.utf8Size_pos
    rw [encodedSize_cons]
    simp only [escapeSequence] at h
    split at h
    · cases h
      simp only [List.length_singleton]
      omega
    · split at h
      · have hsize := hexEscape_size h
        omega
      · split at h
        · have hsize := unicodeEscape_size (by decide) h
          omega
        · split at h
          · have hsize := unicodeEscape_size (by decide) h
            omega
          · split at h
            · have hsize := octalEscape_size h
              omega
            · cases h

/-- One element: a plain character denotes itself, and an escape less than its own size. -/
theorem element_size {c : Char} (h : element c cs = .ok (bytes, rest)) :
    (Token.isPlain c = true ∧ bytes.length + encodedSize rest = encodedSize (c :: cs) ∧ rest = cs) ∨
      bytes.length + encodedSize rest < encodedSize (c :: cs) := by
  rw [encodedSize_cons]
  simp only [element] at h
  split at h
  · cases h
  · split at h
    · cases h
    · split at h
      · have hsize := escapeSequence_size h
        have hc := c.utf8Size_pos
        right
        omega
      · cases h
        left
        rw [String.length_utf8EncodeChar]
        exact ⟨by simp_all [Token.isPlain], rfl, rfl⟩

/-- **What a body denotes** is at most as long as the body, and shorter unless the body is plain. -/
theorem unescape_size (cs : List Char) {bytes : List UInt8} (h : unescape cs = .ok bytes) :
    bytes.length ≤ encodedSize cs ∧
      (bytes.length = encodedSize cs → cs.all Token.isPlain = true) := by
  fun_induction unescape cs generalizing bytes with
  | case1 =>
    cases h
    exact ⟨Nat.zero_le _, fun _ => rfl⟩
  | case2 => cases h
  | case3 => cases h
  | case4 c cs first rest hfirst more hmore ih =>
    cases h
    obtain ⟨hle, hplain⟩ := ih hmore
    rw [List.length_append]
    rcases element_size hfirst with ⟨hc, hsize, rfl⟩ | hsize
    · refine ⟨by omega, fun heq => ?_⟩
      rw [List.all_cons, hc, hplain (by omega), Bool.and_self]
    · exact ⟨by omega, fun heq => by omega⟩

end

end StringLiteral

open StringLiteral

theorem fromUTF8?_length {bytes : List UInt8} {s : String}
    (h : String.fromUTF8? bytes.toByteArray = some s) : bytes.length = encodedSize s.toList :=
  congrArg List.length (fromUTF8?_eq_some_iff.1 h)

theorem unquote_quoted_eq (s : String) : unquote (quoted s) = interpretedValue s.toList := by
  have htext : (quoted s).toList = '"' :: (s.toList ++ ['"']) := by simp [quoted]
  simp [unquote, htext]

/-- **A text means itself in quotes** if and only if it has no quotes, backslashes and line ends. -/
theorem unquote_quoted_iff {s : String} :
    unquote (quoted s) = .ok s ↔ s.toList.all Token.isPlain = true := by
  constructor
  · -- A text that means itself has the size of its body, and no escape keeps the size.
    intro h
    rw [unquote_quoted_eq, interpretedValue] at h
    split at h
    · cases h
    · rename_i bytes hbytes
      split at h
      · rename_i t ht
        cases h
        exact (unescape_size _ hbytes).2 (fromUTF8?_length ht)
      · cases h
  · intro h
    exact unquote_quoted ⟨s, h⟩

end Understudy.Go
