import Understudy.Proofs.Naming.SnakeCase
import Understudy.Proofs.Text.Splitting

/-!
# From snake case to camel case and back

Camel case drops the separators and capitalises what stands between them. Snake case finds a capital
behind a small letter or a digit, so it puts the low lines back where they were, if every word goes
on behind its first letter.

* `Word`: a small letter, with small letters and digits behind it.
* `camelCase_append`, `camelCase_joined`: camel case drops separators.
* `snakeFrom_word`, `snakeFrom_words`: words with capitals, read back.
* `snakeCase_camelCase`: the way back, and separators in general.
-/

set_option autoImplicit false

namespace Understudy.Naming

open Text

/-- Whether the character is a small letter or a digit of ASCII. -/
def isSmall (c : Char) : Bool := c.isLower || c.isDigit

/-- A word of a name in snake case: a small letter, and at least one more small letter or digit. -/
structure Word where
  first : Char
  rest : List Char
  isLower_first : first.isLower = true
  rest_ne_nil : rest ≠ []
  isSmall_rest : ∀ c ∈ rest, isSmall c = true

namespace Word

def letters (w : Word) : List Char := w.first :: w.rest

def text (w : Word) : String := String.ofList w.letters

/-- The word with a capital. -/
def capitalized (w : Word) : List Char := upper w.first ++ w.rest

/-- The last character of the word. -/
def last (w : Word) : Char := w.rest.getLast w.rest_ne_nil

/-- The words with low lines between them. -/
def joined (words : List Word) : String := "_".intercalate (words.map text)

end Word

theorem isSeparator_of_isSmall {c : Char} (h : isSmall c = true) : isSeparator c = false := by
  by_contra hc
  rcases isSeparator_iff.1 (by simpa using hc) with rfl | rfl | rfl <;> cases h

theorem Word.isSmall_letters (w : Word) : ∀ c ∈ w.letters, isSmall c = true := by
  rw [Word.letters, List.forall_mem_cons]
  exact ⟨by simp [isSmall, w.isLower_first], w.isSmall_rest⟩

theorem Word.isSmall_last (w : Word) : isSmall w.last = true :=
  w.isSmall_rest _ (List.getLast_mem w.rest_ne_nil)

/-! ## Camel case -/

/-- **A separator** leaves no trace. -/
theorem camelCase_append {c : Char} (hc : isSeparator c = true) (a b : String) :
    camelCase (a ++ String.singleton c ++ b) = camelCase a ++ camelCase b := by
  have hlist : (a ++ String.singleton c ++ b).toList = a.toList ++ c :: b.toList := by simp
  rw [camelCase, hlist, splitBy_append hc, List.flatMap_append, String.ofList_append]
  rfl

theorem camelCase_word (w : Word) : camelCase w.text = String.ofList w.capitalized := by
  have hwhole : splitBy isSeparator w.letters = [w.letters] :=
    splitBy_uncut fun c hc => isSeparator_of_isSmall (w.isSmall_letters c hc)
  rw [camelCase, Word.text, String.toList_ofList, hwhole, List.flatMap_singleton]
  rfl

theorem joined_cons_cons (w v : Word) (words : List Word) :
    Word.joined (w :: v :: words) =
      w.text ++ String.singleton '_' ++ Word.joined (v :: words) :=
  String.intercalate_cons_cons

theorem camelCase_joined (words : List Word) :
    camelCase (Word.joined words) = String.ofList (words.flatMap Word.capitalized) := by
  induction words with
  | nil => rfl
  | cons w words ih =>
    cases words with
    | nil =>
      rw [List.flatMap_singleton, ← camelCase_word]
      exact congrArg camelCase String.intercalate_singleton
    | cons v words =>
      rw [joined_cons_cons, camelCase_append rfl, camelCase_word, ih, ← String.ofList_append]
      rfl

theorem toList_joined (w : Word) (words : List Word) :
    (Word.joined (w :: words)).toList = w.letters ++ words.flatMap (fun v => '_' :: v.letters) := by
  induction words generalizing w with
  | nil => simp [Word.joined, Word.text]
  | cons v words ih => simp [joined_cons_cons, ih, Word.text]

/-! ## The way back -/

section
variable {last prev : Option Char} {e : Char} {cs mark : List Char}

/-- Small letters and digits are copied. -/
theorem snakeFrom_small (h : ∀ c ∈ cs, isSmall c = true) (last prev : Option Char)
    (rest : List Char) :
    snakeFrom last prev (cs ++ rest) =
      cs ++ snakeFrom (cs.getLast?.or last) (cs.getLast?.or prev) rest := by
  induction cs generalizing last prev with
  | nil => rfl
  | cons c cs ih =>
    rw [List.forall_mem_cons] at h
    obtain ⟨hlower, hupper, -⟩ := lower_of_small h.1
    rw [List.cons_append, snakeFrom_other (isSeparator_of_isSmall h.1),
      breakBefore_of_not_isUpper hupper, hlower, ih h.2, getLast?_cons_or, getLast?_cons_or]
    rfl

/-- **A word with a capital** is read back, behind the mark that every capital gets there. -/
theorem snakeFrom_capitalized
    (hmark : ∀ capital next, isUpper capital = true → breakBefore last prev capital next = mark)
    (w : Word) (rest : List Char) :
    snakeFrom last prev (w.capitalized ++ rest) =
      mark ++ w.letters ++ snakeFrom (some w.last) (some w.last) rest := by
  obtain ⟨capital, hupper, hcapital, hlower⟩ := exists_capital w.isLower_first
  have hother : isSeparator capital = false := by
    by_contra hc
    rw [isUpper_of_isSeparator (by simpa using hc)] at hcapital
    cases hcapital
  have hlast : w.rest.getLast? = some w.last := List.getLast?_eq_some_getLast w.rest_ne_nil
  rw [Word.capitalized, hupper, List.append_assoc, List.singleton_append, snakeFrom_other hother,
    hmark _ _ hcapital, hlower, snakeFrom_small w.isSmall_rest, hlast]
  simp [Word.letters]

/-- A capital behind a small letter or a digit gets a low line. -/
theorem breakBefore_of_isSmall (he : isSmall e = true) (capital : Char) (next : Option Char)
    (hcapital : isUpper capital = true) : breakBefore (some e) (some e) capital next = ['_'] := by
  have hbegins : beginsWord (some e) capital next = true := by
    rw [beginsWord, hcapital, (lower_of_small he).2.2]
    rfl
  have hallows : allowsBreak (some e) = true := by
    simpa [allowsBreak] using ne_lowLine (isSeparator_of_isSmall he)
  rw [breakBefore, hbegins, hallows]
  rfl

theorem snakeFrom_words (he : isSmall e = true) (words : List Word) :
    snakeFrom (some e) (some e) (words.flatMap Word.capitalized) =
      words.flatMap (fun w => '_' :: w.letters) := by
  induction words generalizing e with
  | nil => rfl
  | cons w words ih =>
    rw [List.flatMap_cons, snakeFrom_capitalized (breakBefore_of_isSmall he), ih w.isSmall_last]
    rfl

end

/-- **Camel case and back.** Snake case undoes camel case on every name made of words with low lines
between them, and in every text a separator parts what camel case makes of its two sides. -/
theorem snakeCase_camelCase :
    (∀ words : List Word, snakeCase (camelCase (Word.joined words)) = Word.joined words) ∧
      ∀ (a b : String) (c : Char), isSeparator c = true →
        camelCase (a ++ String.singleton c ++ b) = camelCase a ++ camelCase b := by
  refine ⟨?_, fun a b c hc => camelCase_append hc a b⟩
  intro words
  rw [camelCase_joined, snakeCase, String.toList_ofList]
  cases words with
  | nil => rfl
  | cons w words =>
    rw [List.flatMap_cons, snakeFrom_capitalized (fun _ _ _ => rfl), snakeFrom_words w.isSmall_last,
      List.nil_append, ← toList_joined, String.ofList_toList]

/-- The words of a name with a digit. -/
def sampleWords : List Word := [
  ⟨'g', ['e', 't'], rfl, by simp, List.all_eq_true.1 rfl⟩,
  ⟨'u', ['s', 'e', 'r', '2'], rfl, by simp, List.all_eq_true.1 rfl⟩,
  ⟨'i', ['d'], rfl, by simp, List.all_eq_true.1 rfl⟩]

theorem sampleWords_camelCase :
    Word.joined sampleWords = "get_user2_id" ∧
      snakeCase (camelCase "get_user2_id") = "get_user2_id" ∧
      camelCase ("get" ++ String.singleton ' ' ++ "user2-id") =
        camelCase "get" ++ camelCase "user2-id" := by
  have hjoined : Word.joined sampleWords = "get_user2_id" := by decide +kernel
  have hback := snakeCase_camelCase.1 sampleWords
  rw [hjoined] at hback
  exact ⟨hjoined, hback, snakeCase_camelCase.2 "get" "user2-id" ' ' rfl⟩

end Understudy.Naming
