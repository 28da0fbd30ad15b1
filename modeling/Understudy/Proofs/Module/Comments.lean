import Understudy.Proofs.Go.Literals.Bodies
import Understudy.Proofs.Module.CommentScan
import Understudy.Proofs.Module.Directive
import Understudy.Proofs.Text.Splitting

/-!
# Comments in a `go.mod` file

A comment is dropped where no quotation is open. Whether a quotation is open is told from one
character and the one before it, so a double quote right behind a backslash never closes, also if
the backslash is itself escaped. A literal that ends in this way hides the comment behind it.

* `stripComment_append`, `lineWords_concat`: characters that do not matter to comments.
* `stripFrom_body`: a quotation stays open over the body of a literal.
* `stripComment_literal`: what is dropped behind a literal.
* `modulePath_commented`: what a module statement with a comment declares.
-/

set_option autoImplicit false

namespace Understudy.GoMod

open Go Text StringLiteral

/-! ## Outside of quotations -/

/-- Whether the character neither opens a quotation nor belongs to the mark of a comment. -/
def isInert (c : Char) : Bool := !isQuote c && c != '/'

section
variable {c prev : Char} {cs front : List Char} {quote : Option Char}

theorem isInert_iff : isInert c = true ↔ isQuote c = false ∧ c ≠ '/' := by simp [isInert]

theorem isInert_of_isWhiteSpace (h : isWhiteSpace c = true) : isInert c = true := by
  by_contra hc
  have hcases : (c = '"' ∨ c = '`') ∨ c = '/' := by
    simpa [isInert, isQuote, Classical.or_iff_not_imp_left] using hc
  rcases hcases with (rfl | rfl) | rfl <;> exact absurd h (by decide)

theorem stripComment_append (h : ∀ c ∈ front, isInert c = true) (rest : List Char) :
    stripComment (front ++ rest) = front ++ stripComment rest := by
  induction front with
  | nil => rfl
  | cons c front ih =>
    rw [List.forall_mem_cons] at h
    obtain ⟨hquote, hslash⟩ := isInert_iff.1 h.1
    rw [stripComment_eq, List.cons_append, stripFrom]
    simp [hquote, hslash, stripFrom_none, ih h.2]

theorem stripComment_comment (text : List Char) : stripComment ('/' :: '/' :: text) = [] := by
  simp [stripComment_eq, stripFrom]

/-- A character at the end of a line is dropped with a comment, or is kept. -/
theorem stripFrom_concat (hc : c ≠ '/') :
    stripFrom quote prev (cs ++ [c]) = stripFrom quote prev cs ∨
      stripFrom quote prev (cs ++ [c]) = stripFrom quote prev cs ++ [c] := by
  induction cs generalizing quote prev with
  | nil => cases quote <;> simp [stripFrom, hc]
  | cons x cs ih =>
    have hhead : (cs ++ [c]).head? = some '/' ↔ cs.head? = some '/' := by
      cases cs <;> simp [hc]
    cases quote with
    | some q =>
      simp only [List.cons_append, stripFrom, List.cons.injEq, true_and]
      exact ih
    | none =>
      simp only [List.cons_append, stripFrom, hhead]
      split
      · exact .inl rfl
      · simp only [List.cons_append, List.cons.injEq, true_and]
        exact ih

theorem lineWords_concat (h : isWhiteSpace c = true) (cs : List Char) :
    lineWords (cs ++ [c]) = lineWords cs := by
  rw [lineWords, lineWords, stripComment_eq, stripComment_eq]
  have hslash := (isInert_iff.1 (isInert_of_isWhiteSpace h)).2
  rcases stripFrom_concat hslash with hstrip | hstrip
  · rw [hstrip]
  · rw [hstrip, words_append h]
    simp [words, splitBy]

theorem lineWords_dropReturn (line : List Char) : lineWords (dropReturn line) = lineWords line := by
  unfold dropReturn
  split
  · rename_i hlast
    obtain ⟨front, rfl⟩ := List.getLast?_eq_some_iff.1 hlast
    rw [List.dropLast_concat]
    exact (lineWords_concat (by decide) front).symm
  · rfl

end

/-! ## Inside of quotations -/

section
variable {q prev : Char} {e cs body : List Char} {bytes : List UInt8}

theorem stripComment_quote (h : isQuote q = true) (cs : List Char) :
    stripComment (q :: cs) = q :: stripFrom (some q) q cs := by
  simp [stripComment_eq, stripFrom, h, ne_slash_of_isQuote h]

theorem stripFrom_close (h : q = '`' ∨ prev ≠ '\\') (rest : List Char) :
    stripFrom (some q) prev (q :: rest) = q :: stripComment rest := by
  rw [stripFrom, afterQuoted, if_pos ⟨rfl, h⟩, stripFrom_none]

/-- A quotation stays open up to its quote. -/
theorem stripFrom_within (h : ∀ c ∈ cs, c ≠ q) (prev : Char) (rest : List Char) :
    stripFrom (some q) prev (cs ++ rest) =
      cs ++ stripFrom (some q) (cs.getLast?.getD prev) rest := by
  induction cs generalizing prev with
  | nil => rfl
  | cons c cs ih =>
    rw [List.forall_mem_cons] at h
    simp [stripFrom, afterQuoted, h.1, ih h.2, List.getLast?_cons]

theorem ne_quote_of_isNumeral {radix count v : Nat} {digits : List Char}
    (h : IsNumeral radix count digits v) : ∀ c ∈ digits, c ≠ '"' := by
  obtain ⟨ds, hds, -⟩ := h
  intro c hc
  have hdigit : ∃ d, IsDigit radix c d := by
    induction hds with
    | nil => cases hc
    | cons hfirst _ ih =>
      rcases List.mem_cons.1 hc with rfl | hc
      · exact ⟨_, hfirst⟩
      · exact ih hc
  rintro rfl
  obtain ⟨d, -, hlower | hupper⟩ := hdigit
  · exact absurd (List.mem_of_getElem? hlower) (by decide)
  · exact absurd (List.mem_of_getElem? hupper) (by decide)

/-- An element has a double quote only right behind the backslash of its escape. -/
theorem stripFrom_element (h : Denotes e bytes) (prev : Char) (rest : List Char) :
    stripFrom (some '"') prev (e ++ rest) =
      e ++ stripFrom (some '"') (e.getLast?.getD prev) rest := by
  cases h with
  | plain hquote _ _ => exact stripFrom_within (by simpa using hquote) prev rest
  | simple _ => simp [stripFrom, afterQuoted]
  | octal h =>
    refine stripFrom_within ?_ prev rest
    rw [List.forall_mem_cons]
    exact ⟨by decide, ne_quote_of_isNumeral h⟩
  | hex h =>
    refine stripFrom_within ?_ prev rest
    rw [List.forall_mem_cons, List.forall_mem_cons]
    exact ⟨by decide, by decide, ne_quote_of_isNumeral h⟩
  | unicode hmark h =>
    refine stripFrom_within ?_ prev rest
    rw [List.forall_mem_cons, List.forall_mem_cons]
    refine ⟨by decide, ?_, ne_quote_of_isNumeral h⟩
    rintro rfl
    simp [unicodeMarks] at hmark

/-- **A quotation stays open** over the body of an interpreted literal. -/
theorem stripFrom_body (h : DenotesAll body bytes) (prev : Char) (rest : List Char) :
    stripFrom (some '"') prev (body ++ rest) =
      body ++ stripFrom (some '"') (body.getLast?.getD prev) rest := by
  induction h generalizing prev with
  | nil => rfl
  | @cons e body _ _ he _ ih =>
    rw [List.append_assoc, stripFrom_element he, ih, List.append_assoc, List.getLast?_append]
    cases body.getLast? <;> rfl

end

/-! ## Behind a literal -/

/-- The closing quote of the literal stands right behind a backslash. -/
def ClosesEscaped (literal : String) : Prop := ['\\', '"'] <:+ literal.toList

instance decidableClosesEscaped (literal : String) : Decidable (ClosesEscaped literal) :=
  inferInstanceAs (Decidable (_ <:+ _))

section
variable {literal path : String} {body : List Char}

theorem closesEscaped_iff (h : literal.toList = '"' :: (body ++ ['"'])) :
    ClosesEscaped literal ↔ body.getLast? = some '\\' := by
  rw [ClosesEscaped, h, List.getLast?_eq_some_iff]
  constructor
  · rintro ⟨front, hfront⟩
    have hfront : front ++ ['\\'] = '"' :: body := by
      have hclosed : (front ++ ['\\']) ++ ['"'] = ('"' :: body) ++ ['"'] := by simpa using hfront
      exact List.append_cancel_right hclosed
    cases front with
    | nil => cases hfront
    | cons c front =>
      obtain ⟨-, hbody⟩ := List.cons.inj hfront
      exact ⟨front, hbody.symm⟩
  · rintro ⟨front, rfl⟩
    exact ⟨'"' :: front, by simp⟩

theorem not_closesEscaped (h : literal.toList = '`' :: (body ++ ['`'])) :
    ¬ ClosesEscaped literal := by
  rw [ClosesEscaped, h]
  intro hsuffix
  have hlast := hsuffix.getLast (by simp)
  simp at hlast

/-- The characters of a literal with a meaning: a raw one has no backquote in its body, and an
interpreted one a row of elements. -/
theorem exists_body (h : unquote literal = .ok path) :
    (∃ body, literal.toList = '`' :: (body ++ ['`']) ∧ '`' ∉ body) ∨
      ∃ body bytes, literal.toList = '"' :: (body ++ ['"']) ∧ DenotesAll body bytes := by
  rw [unquote] at h
  split at h
  · cases h
  · rename_i quote rest hliteral
    split at h
    · rename_i hquotes
      split at h
      · rename_i hlast
        obtain ⟨body, rfl⟩ := List.getLast?_eq_some_iff.1 hlast
        rw [List.dropLast_concat] at h
        split at h
        · rename_i hquote
          subst hquote
          exact .inl ⟨body, hliteral, (rawValue_eq_ok_iff.1 h).1⟩
        · rename_i hquote
          obtain rfl := hquotes.resolve_right hquote
          exact .inr ⟨body, _, hliteral, interpretedValue_eq_ok_iff.1 h⟩
      · cases h
    · cases h

/-- **Behind a literal** comments are dropped, unless its closing quote stands right behind a
backslash: the quotation then seems to be still open. -/
theorem stripComment_literal (h : unquote literal = .ok path) (rest : List Char) :
    stripComment (literal.toList ++ rest) = literal.toList ++
      if ClosesEscaped literal then stripFrom (some '"') '"' rest else stripComment rest := by
  rcases exists_body h with ⟨body, hliteral, hbody⟩ | ⟨body, bytes, hliteral, hbody⟩
  · have hwithin : ∀ c ∈ body, c ≠ '`' := fun c hc hq => hbody (hq ▸ hc)
    rw [if_neg (not_closesEscaped hliteral), hliteral, List.cons_append, List.append_assoc,
      List.singleton_append, stripComment_quote rfl, stripFrom_within hwithin,
      stripFrom_close (.inl rfl)]
    simp
  · have hescaped := closesEscaped_iff hliteral
    have hopen : stripComment (literal.toList ++ rest) = '"' :: (body ++
        stripFrom (some '"') (body.getLast?.getD '"') ('"' :: rest)) := by
      rw [hliteral, List.cons_append, List.append_assoc, List.singleton_append,
        stripComment_quote rfl, stripFrom_body hbody]
    rw [hopen, hliteral]
    by_cases hlast : body.getLast? = some '\\'
    · rw [if_pos (hescaped.2 hlast), hlast]
      simp [stripFrom, afterQuoted]
    · have hprev : body.getLast?.getD '"' ≠ '\\' := by
        cases hbody' : body.getLast? with
        | none => decide
        | some c => simpa [hbody'] using hlast
      rw [if_neg (mt hescaped.1 hlast), stripFrom_close (.inr hprev)]
      simp

end

/-! ## Module statements -/

section
variable {literal path content : String} {args : List String}

theorem modulePath_of_rows (h : rowsOf content = ["module" :: args])
    (hopens : opens? ("module" :: args) = none) : modulePath content = argumentPath 1 args := by
  have hstatements : statements (rowsOf content) = [⟨1, args⟩] := by
    simp [h, statements, statementsFrom, statement?, hopens]
  have hopen : openBlock (rowsOf content) = none := by
    simp [h, openBlock, blockAfter, hopens]
  rw [modulePath_eq, hstatements, hopen]
  simp only [declareAll, declare]
  cases argumentPath 1 args <;> rfl

theorem rowsOf_line {line : List Char} (h : '\n' ∉ line)
    (hcontent : content.toList = line ++ ['\n']) : rowsOf content = [lineWords line] := by
  rw [rowsOf, hcontent, lines_cons h]
  simp [lineWords_dropReturn, lines, splitBy]

variable (hliteral : unquote literal = .ok path)
  (hblank : ∀ c ∈ literal.toList, isWhiteSpace c = false)
include hliteral hblank

/-- The words of a statement with a literal: those behind the literal are what is kept there. -/
theorem lineWords_module (rest kept : List Char)
    (hkept : (if ClosesEscaped literal then stripFrom (some '"') '"' rest else stripComment rest) =
      kept) (hhead : ∀ c ∈ kept.head?, isWhiteSpace c = true) :
    lineWords ("module ".toList ++ (literal.toList ++ rest)) =
      "module" :: literal :: (words kept).map String.ofList := by
  have hne : literal.toList ≠ [] := by
    intro hnil
    rw [unquote, hnil] at hliteral
    cases hliteral
  have hinert : ∀ c ∈ "module ".toList, isInert c = true := List.all_eq_true.1 rfl
  have hword : ∀ c ∈ "module".toList, isWhiteSpace c = false := unblank_of_all rfl
  have hstrip : stripComment ("module ".toList ++ (literal.toList ++ rest)) =
      "module".toList ++ ' ' :: (literal.toList ++ kept) := by
    rw [stripComment_append hinert, stripComment_literal hliteral, hkept]
    rfl
  rw [lineWords, hstrip, words_append (by decide), words_single hword (by decide),
    words_word hblank hne hhead]
  simp

/-- A file that is one statement with a literal is read as the words of that statement. -/
theorem modulePath_module (rest kept : List Char) (hrest : '\n' ∉ rest)
    (hcontent : content.toList = "module ".toList ++ (literal.toList ++ rest) ++ ['\n'])
    (hkept : (if ClosesEscaped literal then stripFrom (some '"') '"' rest else stripComment rest) =
      kept) (hhead : ∀ c ∈ kept.head?, isWhiteSpace c = true) :
    modulePath content = argumentPath 1 (literal :: (words kept).map String.ofList) := by
  have hline : '\n' ∉ "module ".toList ++ (literal.toList ++ rest) := by
    have hnewline : '\n' ∉ literal.toList := fun h => absurd (hblank _ h) (by decide)
    simp [hnewline, hrest]
  have hrows := rowsOf_line hline hcontent
  rw [lineWords_module hliteral hblank rest kept hkept hhead] at hrows
  refine modulePath_of_rows hrows ?_
  have hbracket : literal ≠ "(" := by
    rintro rfl
    cases hliteral
  cases words kept <;> simp [opens?, hbracket]

end

/-- **A comment behind a module statement.** The statement declares its path, and so it does with a
comment behind it, unless the closing quote of the literal stands right behind a backslash. It is
then refused, because the words of the comment are taken for further arguments. -/
theorem modulePath_commented (literal path comment : String) (hliteral : unquote literal = .ok path)
    (hpath : path ≠ "") (hblank : ∀ c ∈ literal.toList, isWhiteSpace c = false)
    (hcomment : '\n' ∉ comment.toList) :
    modulePath ("module " ++ literal ++ "\n") = .ok path ∧
      modulePath ("module " ++ literal ++ " //" ++ comment ++ "\n") =
        if ClosesEscaped literal then .error (.badArguments 1) else .ok path := by
  have hdeclared : argumentPath 1 [literal] = .ok path := by
    rw [argumentPath_spelled (.inr hliteral), if_neg hpath]
  constructor
  · rw [← hdeclared]
    refine modulePath_module hliteral hblank [] [] (by simp) (by simp) ?_ (by simp)
    split <;> rfl
  · have hline : '\n' ∉ ' ' :: '/' :: '/' :: comment.toList := by simp [hcomment]
    have hcontent : ("module " ++ literal ++ " //" ++ comment ++ "\n").toList =
        "module ".toList ++ (literal.toList ++ ' ' :: '/' :: '/' :: comment.toList) ++ ['\n'] := by
      simp
    by_cases hescaped : ClosesEscaped literal
    · -- The quotation seems to be open, so the two slashes are the start of a word.
      have hkept : stripFrom (some '"') '"' (' ' :: '/' :: '/' :: comment.toList) =
          ' ' :: '/' :: '/' :: stripFrom (some '"') '/' comment.toList := by
        simp [stripFrom, afterQuoted]
      obtain ⟨word, more, hwords⟩ := List.exists_cons_of_ne_nil
        (words_ne_nil (show isWhiteSpace '/' = false by decide)
          ('/' :: stripFrom (some '"') '/' comment.toList))
      rw [if_pos hescaped, modulePath_module hliteral hblank _ _ hline hcontent
        ((if_pos hescaped).trans hkept) (by simp; decide), words_cons (by decide), hwords]
      rfl
    · have hkept : stripComment (' ' :: '/' :: '/' :: comment.toList) = [' '] := by
        simp [stripComment_eq, stripFrom, isQuote]
      rw [if_neg hescaped, ← hdeclared]
      exact modulePath_module hliteral hblank _ _ hline hcontent
        ((if_neg hescaped).trans hkept) (by simp; decide)

/-- A literal with slashes, and with an escaped backslash right before an escaped quote. -/
def slashedLiteral : String := "\"a//b\\\\\\\"c\""

theorem slashedLiteral_commented :
    unquote slashedLiteral = .ok "a//b\\\"c" ∧
      modulePath ("module " ++ slashedLiteral ++ " //" ++ " \"c\" // d" ++ "\n") =
        .ok "a//b\\\"c" := by
  have hliteral : unquote slashedLiteral = .ok "a//b\\\"c" := by decide +kernel
  have hblank : ∀ c ∈ slashedLiteral.toList, isWhiteSpace c = false := unblank_of_all rfl
  have hcomment : '\n' ∉ " \"c\" // d".toList := by decide +kernel
  have hpath := (modulePath_commented _ _ _ hliteral (by decide) hblank hcomment).2
  rw [if_neg (by decide +kernel)] at hpath
  exact ⟨hliteral, hpath⟩

/-- A literal whose last element is an escaped backslash. -/
def backslashLiteral : String := "\"a\\\\\""

/-- The path is declared without a comment, and is refused with one. -/
theorem backslashLiteral_refused :
    unquote backslashLiteral = .ok "a\\" ∧
      (∀ c ∈ backslashLiteral.toList, isWhiteSpace c = false) ∧
      modulePath ("module " ++ backslashLiteral ++ "\n") = .ok "a\\" ∧
      modulePath ("module " ++ backslashLiteral ++ " //" ++ " c" ++ "\n") =
        .error (.badArguments 1) := by
  have hliteral : unquote backslashLiteral = .ok "a\\" := by decide +kernel
  have hrows : rowsOf ("module " ++ backslashLiteral ++ "\n") =
      [["module", backslashLiteral]] := rfl
  refine ⟨hliteral, unblank_of_all rfl, ?_, rfl⟩
  rw [modulePath_of_rows hrows rfl, argumentPath_spelled (.inr hliteral), if_neg (by decide)]

end Understudy.GoMod
