import Mathlib.Data.List.Forall2
import Understudy.Naming
import Understudy.Proofs.Text.LetterCase

/-!
# Names in snake case

Snake case is a normal form: low lines stand one by one behind other characters, and all else is the
lower case of what was given. What is written depends on the text so far only by its last character,
so all of it is proved character by character.

* `snakeFrom_separator`, `snakeFrom_other`: what one character adds.
* `mem_snakeFrom`, `spaced_snakeFrom`, `filter_snakeFrom`: what snake case writes.
* `snakeFrom_congr`: separators are not told apart.
* `snakeFrom_eq_self`: a text in normal form is left as it is.
* `snakeCase_normal`: the normal form.
-/

set_option autoImplicit false

namespace Understudy.Naming

open Text

/-! ## Separators -/

section
variable {c x p : Char} {prev next next' : Option Char}

theorem isSeparator_iff : isSeparator c = true ↔ c = '_' ∨ c = '-' ∨ c = ' ' := by
  simp [isSeparator, or_assoc]

theorem ne_lowLine (h : isSeparator c = false) : c ≠ '_' := by
  rintro rfl
  cases h

/-- A separator stands in the lower case of no other character. -/
theorem isSeparator_of_mem_lower (hx : x ∈ lower c) (hc : isSeparator c = false) :
    isSeparator x = false := by
  by_contra h
  have hcode : 0 < x.toNat ∧ x.toNat ≤ 0x5f := by
    rcases isSeparator_iff.1 (by simpa using h) with rfl | rfl | rfl <;> decide
  rw [eq_of_mem_lower hx hcode.1 hcode.2] at h
  exact h hc

theorem isLower_of_isSeparator (h : isSeparator c = true) : isLower c = false := by
  rcases isSeparator_iff.1 h with rfl | rfl | rfl <;> decide

theorem isUpper_of_isSeparator (h : isSeparator c = true) : isUpper c = false := by
  rcases isSeparator_iff.1 h with rfl | rfl | rfl <;> decide

/-- No word begins by its capital right behind a separator. -/
theorem beginsWord_of_isSeparator (h : isSeparator p = true) (c : Char) (next : Option Char) :
    beginsWord (some p) c next = false := by
  have hdigit : p.isDigit = false := by
    rcases isSeparator_iff.1 h with rfl | rfl | rfl <;> decide
  simp [beginsWord, isLower_of_isSeparator h, isUpper_of_isSeparator h, hdigit]

theorem beginsWord_of_not_isUpper (h : isUpper c = false) (prev next : Option Char) :
    beginsWord prev c next = false := by
  cases prev <;> simp [beginsWord, h]

/-- Of the character behind it only its case matters. -/
theorem beginsWord_next (h : next.any isLower = next'.any isLower) (prev : Option Char) (c : Char) :
    beginsWord prev c next = beginsWord prev c next' := by
  cases prev <;> simp [beginsWord, h]

end

/-! ## One character -/

section
variable {last prev : Option Char} {c : Char} {cs : List Char}

theorem snakeFrom_separator (hc : isSeparator c = true) :
    snakeFrom last prev (c :: cs) =
      if allowsBreak last then '_' :: snakeFrom (some '_') (some c) cs
      else snakeFrom last (some c) cs := by
  rw [snakeFrom, if_pos hc]

/-- The low line before the character `c`, if it begins a word and one is missing. -/
def breakBefore (last prev : Option Char) (c : Char) (next : Option Char) : List Char :=
  if beginsWord prev c next && allowsBreak last then ['_'] else []

theorem snakeFrom_other (hc : isSeparator c = false) :
    snakeFrom last prev (c :: cs) =
      breakBefore last prev c cs.head? ++ lower c ++
        snakeFrom (lower c).getLast? (some c) cs := by
  rw [snakeFrom, if_neg (by simp [hc])]
  rfl

theorem breakBefore_of_not_isUpper (h : isUpper c = false) (last prev next : Option Char) :
    breakBefore last prev c next = [] := by
  rw [breakBefore, beginsWord_of_not_isUpper h]
  rfl

end

/-! ## What snake case writes -/

/-- Every low line stands right behind another character. `last` is the one before the text. -/
def Spaced (last : Option Char) : List Char → Prop
  | [] => True
  | c :: cs => (c = '_' → allowsBreak last = true) ∧ Spaced (some c) cs

section
variable {last prev : Option Char} {c x : Char} {cs out front : List Char}

theorem getLast?_cons_or (c : Char) (cs : List Char) (last : Option Char) :
    (c :: cs).getLast?.or last = cs.getLast?.or (some c) := by
  rw [List.getLast?_cons]
  cases cs.getLast? <;> rfl

theorem Spaced.append (hfront : Spaced last front) (hout : Spaced (front.getLast?.or last) out) :
    Spaced last (front ++ out) := by
  induction front generalizing last with
  | nil => simpa using hout
  | cons c front ih =>
    rw [getLast?_cons_or] at hout
    exact ⟨hfront.1, ih hfront.2 hout⟩

theorem spaced_of_ne (h : ∀ x ∈ out, x ≠ '_') (last : Option Char) : Spaced last out := by
  induction out generalizing last with
  | nil => trivial
  | cons c out ih =>
    rw [List.forall_mem_cons] at h
    exact ⟨fun hc => absurd hc h.1, ih h.2 _⟩

theorem Spaced.not_doubled (h : Spaced last out) : ¬ ['_', '_'] <:+: out := by
  rintro ⟨front, back, rfl⟩
  induction front generalizing last with
  | nil => simp [Spaced, allowsBreak] at h
  | cons c front ih => exact ih h.2

theorem Spaced.head?_ne (h : Spaced none out) : out.head? ≠ some '_' := by
  cases out with
  | nil => simp
  | cons c out =>
    intro hc
    have hbreak := h.1 (by simpa using hc)
    cases hbreak

theorem eq_of_mem_breakBefore {next : Option Char} (h : x ∈ breakBefore last prev c next) :
    x = '_' := by
  unfold breakBefore at h
  split at h
  · exact List.mem_singleton.1 h
  · cases h

theorem spaced_breakBefore (last prev : Option Char) (c : Char) (next : Option Char) :
    Spaced last (breakBefore last prev c next) := by
  unfold breakBefore
  split
  · rename_i hbreak
    exact ⟨fun _ => (Bool.and_eq_true_iff.1 hbreak).2, trivial⟩
  · trivial

/-- What is written is low lines, and the lower case of what is no separator. -/
theorem mem_snakeFrom (h : x ∈ snakeFrom last prev cs) :
    x = '_' ∨ ∃ c ∈ cs, isSeparator c = false ∧ x ∈ lower c := by
  induction cs generalizing last prev with
  | nil => cases h
  | cons c cs ih =>
    have hrest : ∀ last prev, x ∈ snakeFrom last prev cs →
        x = '_' ∨ ∃ d ∈ c :: cs, isSeparator d = false ∧ x ∈ lower d := by
      intro last prev hx
      obtain rfl | ⟨d, hd, hx⟩ := ih hx
      · exact .inl rfl
      · exact .inr ⟨d, List.mem_cons_of_mem _ hd, hx⟩
    cases hc : isSeparator c with
    | true =>
      rw [snakeFrom_separator hc] at h
      split at h
      · rcases List.mem_cons.1 h with rfl | h
        · exact .inl rfl
        · exact hrest _ _ h
      · exact hrest _ _ h
    | false =>
      rw [snakeFrom_other hc, List.mem_append, List.mem_append] at h
      rcases h with (h | h) | h
      · exact .inl (eq_of_mem_breakBefore h)
      · exact .inr ⟨c, List.mem_cons_self, hc, h⟩
      · exact hrest _ _ h

theorem spaced_snakeFrom (last prev : Option Char) (cs : List Char) :
    Spaced last (snakeFrom last prev cs) := by
  induction cs generalizing last prev with
  | nil => trivial
  | cons c cs ih =>
    cases hc : isSeparator c with
    | true =>
      rw [snakeFrom_separator hc]
      split
      · rename_i hbreak
        exact ⟨fun _ => hbreak, ih _ _⟩
      · exact ih _ _
    | false =>
      have hlower : ∀ x ∈ lower c, x ≠ '_' := by
        intro x hx
        exact ne_lowLine (isSeparator_of_mem_lower hx hc)
      have hlast : (lower c).getLast? ≠ none := mt List.getLast?_eq_none_iff.1 (lower_ne_nil c)
      obtain ⟨d, hd⟩ := Option.ne_none_iff_exists'.1 hlast
      -- The lower case has a last character, and the text goes on behind that one.
      rw [snakeFrom_other hc]
      refine ((spaced_breakBefore last prev c _).append (spaced_of_ne hlower _)).append ?_
      rw [List.getLast?_append, hd]
      exact ih _ _

/-- **Nothing is lost but separators**, and nothing is added but low lines. -/
theorem filter_snakeFrom (last prev : Option Char) (cs : List Char) :
    (snakeFrom last prev cs).filter (· != '_') =
      (cs.filter (fun c => !isSeparator c)).flatMap lower := by
  induction cs generalizing last prev with
  | nil => rfl
  | cons c cs ih =>
    cases hc : isSeparator c with
    | true =>
      rw [snakeFrom_separator hc, List.filter_cons_of_neg (by simp [hc])]
      split
      · rw [List.filter_cons_of_neg (by simp), ih]
      · exact ih _ _
    | false =>
      have hmark : (breakBefore last prev c cs.head?).filter (· != '_') = [] := by
        rw [List.filter_eq_nil_iff]
        intro x hx
        simp [eq_of_mem_breakBefore hx]
      have hlower : (lower c).filter (· != '_') = lower c := by
        rw [List.filter_eq_self]
        intro x hx
        simpa using ne_lowLine (isSeparator_of_mem_lower hx hc)
      rw [snakeFrom_other hc, List.filter_cons_of_pos (by simp [hc]), List.flatMap_cons,
        List.filter_append, List.filter_append, hmark, hlower, ih, List.nil_append]

end

/-! ## Separators are not told apart -/

/-- The characters are the same, or both are separators. -/
def Interchangeable (c d : Char) : Prop :=
  c = d ∨ isSeparator c = true ∧ isSeparator d = true

instance decidableInterchangeable : DecidableRel Interchangeable := fun c d =>
  inferInstanceAs (Decidable (c = d ∨ isSeparator c = true ∧ isSeparator d = true))

section
variable {last prev prev' : Option Char} {cs ds : List Char}

theorem any_isLower_head? (h : List.Forall₂ Interchangeable cs ds) :
    cs.head?.any isLower = ds.head?.any isLower := by
  cases h with
  | nil => rfl
  | cons hcd _ =>
    rcases hcd with rfl | ⟨hc, hd⟩
    · rfl
    · simp [isLower_of_isSeparator hc, isLower_of_isSeparator hd]

/-- Of the character before the text only matters which words begin behind it. -/
theorem snakeFrom_congr (h : List.Forall₂ Interchangeable cs ds)
    (hprev : ∀ c next, beginsWord prev c next = beginsWord prev' c next) :
    snakeFrom last prev cs = snakeFrom last prev' ds := by
  induction h generalizing last prev prev' with
  | nil => rfl
  | @cons c d cs ds hcd hrest ih =>
    rcases hcd with rfl | ⟨hc, hd⟩
    · cases hc : isSeparator c with
      | true => rw [snakeFrom_separator hc, snakeFrom_separator hc, ih fun _ _ => rfl,
          ih fun _ _ => rfl]
      | false =>
        rw [snakeFrom_other hc, snakeFrom_other hc, breakBefore, breakBefore, hprev,
          beginsWord_next (any_isLower_head? hrest), ih fun _ _ => rfl]
    · have hbegins : ∀ x next, beginsWord (some c) x next = beginsWord (some d) x next := by
        intro x next
        rw [beginsWord_of_isSeparator hc, beginsWord_of_isSeparator hd]
      rw [snakeFrom_separator hc, snakeFrom_separator hd, ih hbegins, ih hbegins]

end

/-! ## The normal form -/

section
variable {last prev : Option Char} {out : List Char} {s : String}

/-- A text with spaced low lines and otherwise only characters that are their own lower case is left
as it is. -/
theorem snakeFrom_eq_self (hspaced : Spaced last out)
    (hplain : ∀ x ∈ out, x = '_' ∨ isSeparator x = false ∧ isUpper x = false ∧ lower x = [x]) :
    snakeFrom last prev out = out := by
  induction out generalizing last prev with
  | nil => rfl
  | cons c out ih =>
    rw [List.forall_mem_cons] at hplain
    obtain ⟨rfl | ⟨hc, hupper, hlower⟩, hrest⟩ := hplain
    · rw [snakeFrom_separator rfl, if_pos (hspaced.1 rfl), ih hspaced.2 hrest]
    · rw [snakeFrom_other hc, breakBefore_of_not_isUpper hupper, hlower]
      simpa using ih hspaced.2 hrest

theorem snakeCase_snakeCase
    (h : ∀ c ∈ s.toList, ∀ x ∈ lower c, isUpper x = false ∧ lower x = [x]) :
    snakeCase (snakeCase s) = snakeCase s := by
  have hself : snakeFrom none none (snakeFrom none none s.toList) =
      snakeFrom none none s.toList := by
    refine snakeFrom_eq_self (spaced_snakeFrom none none _) ?_
    intro x hx
    obtain rfl | ⟨c, hc, hseparator, hx⟩ := mem_snakeFrom hx
    · exact .inl rfl
    · exact .inr ⟨isSeparator_of_mem_lower hx hseparator, h c hc x hx⟩
  rw [snakeCase, snakeCase, String.toList_ofList, hself]

theorem not_mem_snakeCase {x : Char} (hx : isSeparator x = true) (hne : x ≠ '_') (s : String) :
    x ∉ (snakeCase s).toList := by
  rw [snakeCase, String.toList_ofList]
  intro hmem
  obtain rfl | ⟨c, -, hc, hlower⟩ := mem_snakeFrom hmem
  · exact hne rfl
  · rw [isSeparator_of_mem_lower hlower hc] at hx
    cases hx

end

/-- **Snake case is a normal form.** For every text: no space and no hyphen is left, no low line
stands at the beginning or right behind another one, and without low lines it is the lower case of
the text without separators. It makes no difference which separators a text has. It is its own snake
case, if every character lowers to characters that are their own lower case and not upper case, as
all characters of ASCII do. -/
theorem snakeCase_normal (s : String) :
    (' ' ∉ (snakeCase s).toList ∧ '-' ∉ (snakeCase s).toList ∧
      (snakeCase s).toList.head? ≠ some '_' ∧ ¬ ['_', '_'] <:+: (snakeCase s).toList) ∧
    (snakeCase s).toList.filter (· != '_') =
      (s.toList.filter (fun c => !isSeparator c)).flatMap lower ∧
    (∀ t : String, List.Forall₂ Interchangeable s.toList t.toList → snakeCase t = snakeCase s) ∧
    ((∀ c ∈ s.toList, ∀ x ∈ lower c, isUpper x = false ∧ lower x = [x]) →
      snakeCase (snakeCase s) = snakeCase s) ∧
    ((∀ c ∈ s.toList, c.toNat < 128) → snakeCase (snakeCase s) = snakeCase s) := by
  have hspaced : Spaced none (snakeCase s).toList := by
    rw [snakeCase, String.toList_ofList]
    exact spaced_snakeFrom none none _
  refine ⟨⟨not_mem_snakeCase rfl (by decide) s, not_mem_snakeCase rfl (by decide) s,
    hspaced.head?_ne, hspaced.not_doubled⟩, ?_, ?_, snakeCase_snakeCase, ?_⟩
  · rw [snakeCase, String.toList_ofList]
    exact filter_snakeFrom none none _
  · intro t ht
    rw [snakeCase, snakeCase, snakeFrom_congr ht fun _ _ => rfl]
  · intro hascii
    exact snakeCase_snakeCase fun c hc => lower_of_ascii (hascii c hc)

/-- A name with a run of capitals, a digit, a run of separators and a letter whose lower case is two
characters. -/
def mixedName : String := "HTTPServer2Go -_İd"

/-- The same name with other separators. -/
def respacedName : String := "HTTPServer2Go_  İd"

theorem mixedName_normal :
    snakeCase mixedName = "http_server2_go_i\u0307d" ∧
      snakeCase respacedName = snakeCase mixedName ∧
      snakeCase (snakeCase mixedName) = snakeCase mixedName ∧
      snakeCase (snakeCase "GetUserByID") = snakeCase "GetUserByID" := by
  obtain ⟨-, -, hrespaced, hagain, -⟩ := snakeCase_normal mixedName
  obtain ⟨-, -, -, -, hascii⟩ := snakeCase_normal "GetUserByID"
  refine ⟨by decide +kernel, hrespaced respacedName (by decide +kernel), hagain ?_, hascii ?_⟩
  · have hall : mixedName.toList.all
        (fun c => (lower c).all (fun x => !isUpper x && lower x == [x])) = true := by
      decide +kernel
    simpa using hall
  · simp

end Understudy.Naming
