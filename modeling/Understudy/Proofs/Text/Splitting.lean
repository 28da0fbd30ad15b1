import Understudy.Text.WhiteSpace

/-!
# Texts cut into pieces, words and lines

A cut between two texts is a cut of the whole, so the pieces, words and lines of a text are those in
front of the cut followed by those behind it.

* `splitBy_append`: pieces on both sides of a cut.
* `words_append`, `words_eq_cons`: words, and where the first one of them stands.
* `lines_append`: lines on both sides of a line end.
-/

set_option autoImplicit false

namespace Understudy.Text

/-! ## Pieces -/

section
variable {α : Type} {isCut : α → Bool} {xs ys : List α} {c : α}

theorem growFirst_append {pieces more : List (List α)} (h : pieces ≠ []) :
    growFirst c (pieces ++ more) = growFirst c pieces ++ more := by
  cases pieces with
  | nil => exact absurd rfl h
  | cons => rfl

theorem splitBy_ne_nil (isCut : α → Bool) (xs : List α) : splitBy isCut xs ≠ [] := by
  fun_induction splitBy isCut xs with
  | case1 => simp
  | case2 => simp
  | case3 c cs hc ih =>
    cases hpieces : splitBy isCut cs with
    | nil => exact absurd hpieces ih
    | cons => simp [growFirst]

/-- **A cut** parts the pieces in front of it from those behind it. -/
theorem splitBy_append (hc : isCut c = true) (xs ys : List α) :
    splitBy isCut (xs ++ c :: ys) = splitBy isCut xs ++ splitBy isCut ys := by
  induction xs with
  | nil => simp [splitBy, hc]
  | cons x xs ih =>
    by_cases hx : isCut x = true
    · simp [splitBy, hx, ih]
    · simp [splitBy, hx, ih, growFirst_append (splitBy_ne_nil isCut xs)]

theorem splitBy_uncut (h : ∀ x ∈ xs, isCut x = false) : splitBy isCut xs = [xs] := by
  induction xs with
  | nil => rfl
  | cons x xs ih =>
    rw [List.forall_mem_cons] at h
    simp [splitBy, h.1, ih h.2, growFirst]

theorem growFirst_forall {P : α → Prop} {pieces : List (List α)} (hc : P c)
    (h : ∀ piece ∈ pieces, ∀ x ∈ piece, P x) :
    ∀ piece ∈ growFirst c pieces, ∀ x ∈ piece, P x := by
  cases pieces with
  | nil => simpa [growFirst] using hc
  | cons first rest =>
    rw [List.forall_mem_cons] at h
    rw [growFirst, List.forall_mem_cons, List.forall_mem_cons]
    exact ⟨⟨hc, h.1⟩, h.2⟩

/-- No piece has a character that is cut at. -/
theorem splitBy_forall (isCut : α → Bool) (xs : List α) :
    ∀ piece ∈ splitBy isCut xs, ∀ x ∈ piece, isCut x = false := by
  fun_induction splitBy isCut xs with
  | case1 => simp
  | case2 x xs hx ih => simpa using ih
  | case3 x xs hx ih => exact growFirst_forall (by simpa using hx) ih

/-- A character of texts that are put together is one of the separator, or of one of the texts. -/
theorem mem_intercalate {c : Char} {separator : String} {pieces : List String}
    (h : c ∈ (separator.intercalate pieces).toList) :
    c ∈ separator.toList ∨ ∃ s ∈ pieces, c ∈ s.toList := by
  induction pieces with
  | nil => simp at h
  | cons first rest ih =>
    cases rest with
    | nil => exact .inr ⟨first, List.mem_cons_self, by simpa using h⟩
    | cons second rest =>
      simp only [String.intercalate_cons_cons, String.toList_append, List.mem_append] at h
      rcases h with (h | h) | h
      · exact .inr ⟨first, List.mem_cons_self, h⟩
      · exact .inl h
      · rcases ih h with h | ⟨s, hs, h⟩
        · exact .inl h
        · exact .inr ⟨s, List.mem_cons_of_mem _ hs, h⟩

end

/-! ## Words -/

section
variable {c : Char} {cs blank word rest : List Char}

theorem unblank_of_all (h : word.all (fun c => !isWhiteSpace c) = true) :
    ∀ c ∈ word, isWhiteSpace c = false := by
  simpa using h

/-- White space parts the words in front of it from those behind it. -/
theorem words_append (hc : isWhiteSpace c = true) (cs rest : List Char) :
    words (cs ++ c :: rest) = words cs ++ words rest := by
  rw [words, splitBy_append hc, List.filter_append]
  rfl

theorem words_cons (hc : isWhiteSpace c = true) (cs : List Char) : words (c :: cs) = words cs :=
  words_append hc [] cs

theorem words_blank (h : ∀ c ∈ blank, isWhiteSpace c = true) (rest : List Char) :
    words (blank ++ rest) = words rest := by
  induction blank with
  | nil => rfl
  | cons c blank ih =>
    rw [List.forall_mem_cons] at h
    exact (words_cons h.1 _).trans (ih h.2)

theorem words_single (h : ∀ c ∈ word, isWhiteSpace c = false) (hne : word ≠ []) :
    words word = [word] := by
  simp [words, splitBy_uncut h, hne]

/-- A word ends where white space follows it, or nothing. -/
theorem words_word (h : ∀ c ∈ word, isWhiteSpace c = false) (hne : word ≠ [])
    (hrest : ∀ c ∈ rest.head?, isWhiteSpace c = true) :
    words (word ++ rest) = word :: words rest := by
  cases rest with
  | nil => rw [List.append_nil, words_single h hne]; rfl
  | cons c rest =>
    have hc : isWhiteSpace c = true := hrest c rfl
    rw [words_append hc, words_single h hne, words_cons hc]
    rfl

theorem exists_run (cs : List Char) :
    ∃ word rest, cs = word ++ rest ∧ (∀ c ∈ word, isWhiteSpace c = false) ∧
      ∀ c ∈ rest.head?, isWhiteSpace c = true := by
  induction cs with
  | nil => exact ⟨[], [], rfl, by simp, by simp⟩
  | cons c cs ih =>
    by_cases hc : isWhiteSpace c = true
    · exact ⟨[], c :: cs, rfl, by simp, by simpa using hc⟩
    · obtain ⟨word, rest, rfl, hword, hrest⟩ := ih
      exact ⟨c :: word, rest, rfl, by simpa [hc] using hword, hrest⟩

theorem words_ne_nil (h : isWhiteSpace c = false) (cs : List Char) : words (c :: cs) ≠ [] := by
  obtain ⟨run, rest, rfl, hrun, hrest⟩ := exists_run cs
  rw [← List.cons_append, words_word (by simpa [h] using hrun) (List.cons_ne_nil c run) hrest]
  exact List.cons_ne_nil _ _

/-- **The first word** of a text stands behind white space, and white space follows it, or
nothing. -/
theorem words_eq_cons {more : List (List Char)} (h : words cs = word :: more) :
    ∃ blank rest, cs = blank ++ (word ++ rest) ∧ (∀ c ∈ blank, isWhiteSpace c = true) ∧
      (∀ c ∈ word, isWhiteSpace c = false) ∧ word ≠ [] ∧ words rest = more := by
  induction cs with
  | nil => cases h
  | cons c cs ih =>
    by_cases hc : isWhiteSpace c = true
    · rw [words_cons hc] at h
      obtain ⟨blank, rest, rfl, hblank, hword⟩ := ih h
      exact ⟨c :: blank, rest, rfl, by simpa [hc] using hblank, hword⟩
    · obtain ⟨run, rest, rfl, hrun, hrest⟩ := exists_run cs
      have hink : ∀ x ∈ c :: run, isWhiteSpace x = false := by simpa [hc] using hrun
      rw [← List.cons_append, words_word hink (List.cons_ne_nil c run) hrest] at h
      obtain ⟨rfl, hmore⟩ := List.cons.inj h
      exact ⟨[], rest, rfl, by simp, hink, List.cons_ne_nil c run, hmore⟩

end

/-! ## Lines -/

section
variable {line : List Char}

theorem isNewline_eq_false (h : '\n' ∉ line) : ∀ c ∈ line, (c == '\n') = false := by
  intro c hc
  simpa using ne_of_mem_of_not_mem hc h

/-- A line end parts the lines in front of it from those behind it. -/
theorem lines_append (front back : List Char) :
    lines (front ++ '\n' :: back) = (splitBy (· == '\n') front).map dropReturn ++ lines back := by
  obtain ⟨init, last, hback⟩ :=
    (List.eq_nil_or_concat (splitBy (· == '\n') back)).resolve_left (splitBy_ne_nil _ back)
  have hwhole : splitBy (· == '\n') (front ++ '\n' :: back) =
      (splitBy (· == '\n') front ++ init) ++ [last] := by
    rw [splitBy_append (by simp), hback, List.concat_eq_append, List.append_assoc]
  rw [lines, lines, hwhole, hback, List.concat_eq_append]
  simp only [List.dropLast_concat, List.getLast?_concat]
  cases last <;> simp

theorem lines_cons (h : '\n' ∉ line) (back : List Char) :
    lines (line ++ '\n' :: back) = dropReturn line :: lines back := by
  rw [lines_append, splitBy_uncut (isNewline_eq_false h)]
  rfl

end

end Understudy.Text
