import Understudy.Proofs.Module.Comments

/-!
# Edits of a `go.mod` file that keep its module

The path that a file declares depends only on its module statements, in whatever way they are
written and whatever stands between them. So it is kept by every edit that leaves the arguments of
the module statements, and the block that is open behind each of them, as they are.

* `SameFrom`: two rows of lines state the same and leave the same block open.
* `SameFrom.within`: they do so between any other lines.
* `Edit`: the edits.
* `modulePath_edited`: an edit keeps the path.
-/

set_option autoImplicit false

namespace Understudy.GoMod

open Go Text

/-! ## What rows state -/

/-- The arguments of the module statements of the rows, by the block that is open before them. -/
def argumentsFrom (block : Option String) : List (List String) → List (List String)
  | [] => []
  | row :: rows => (statement? block row).toList ++ argumentsFrom (blockAfter block row) rows

/-- The rows state the same from the block on and leave the same block open. -/
structure SameFrom (block : Option String) (rows rows' : List (List String)) : Prop where
  arguments : argumentsFrom block rows = argumentsFrom block rows'
  block : rows.foldl blockAfter block = rows'.foldl blockAfter block

section
variable {block : Option String} {rows rows' front : List (List String)}

theorem map_statementsFrom (block : Option String) (n : Nat) (rows : List (List String)) :
    (statementsFrom block n rows).map Statement.arguments = argumentsFrom block rows := by
  induction rows generalizing block n with
  | nil => rfl
  | cons row rows ih =>
    rw [statementsFrom, argumentsFrom, List.map_append, ih]
    cases statement? block row <;> rfl

theorem argumentsFrom_cons (block : Option String) (row : List String) (rows : List (List String)) :
    argumentsFrom block (row :: rows) =
      (statement? block row).toList ++ argumentsFrom (blockAfter block row) rows := rfl

theorem argumentsFrom_append (block : Option String) (front back : List (List String)) :
    argumentsFrom block (front ++ back) =
      argumentsFrom block front ++ argumentsFrom (front.foldl blockAfter block) back := by
  induction front generalizing block with
  | nil => rfl
  | cons row front ih =>
    rw [List.cons_append, argumentsFrom_cons, argumentsFrom_cons, ih, List.append_assoc,
      List.foldl_cons]

/-- **Between other rows** they state the same as well. -/
theorem SameFrom.within (h : SameFrom (front.foldl blockAfter block) rows rows')
    (back : List (List String)) :
    SameFrom block (front ++ (rows ++ back)) (front ++ (rows' ++ back)) := by
  constructor
  · simp only [argumentsFrom_append, h.arguments, h.block]
  · simp only [List.foldl_append, h.block]

/-- What a file declares depends on what its rows state. -/
theorem SameFrom.modulePath {before after : String}
    (h : SameFrom none (rowsOf before) (rowsOf after)) (path : String) :
    modulePath before = .ok path ↔ modulePath after = .ok path := by
  have harguments : (statements (rowsOf before)).map Statement.arguments =
      (statements (rowsOf after)).map Statement.arguments := by
    rw [statements, statements, map_statementsFrom, map_statementsFrom, h.arguments]
  have hblock : openBlock (rowsOf before) = openBlock (rowsOf after) := h.block
  -- The number of its line does not matter to what a statement declares.
  have hdeclares : ∀ {all all' : List Statement},
      all.map Statement.arguments = all'.map Statement.arguments →
      (∃ s, all = [s] ∧ s.Declares path) → ∃ s, all' = [s] ∧ s.Declares path := by
    rintro all all' hall ⟨s, rfl, hpath, arg, harg, hspells⟩
    rw [List.map_singleton, eq_comm, List.map_eq_singleton_iff] at hall
    obtain ⟨s', rfl, hs'⟩ := hall
    exact ⟨s', rfl, hpath, arg, hs'.trans harg, hspells⟩
  rw [modulePath_eq_ok_iff, modulePath_eq_ok_iff, hblock]
  exact and_congr_right fun _ => ⟨hdeclares harguments, hdeclares harguments.symm⟩

end

/-! ## Rows that state nothing -/

section
variable {block : Option String} {verb : String} {row opening closing : List String}
  {rows : List (List String)}

/-- Rows each of which states nothing and leaves the block as it is. -/
theorem sameFrom_silent
    (h : ∀ row ∈ rows, statement? block row = none ∧ blockAfter block row = block) :
    SameFrom block [] rows := by
  induction rows with
  | nil => exact ⟨rfl, rfl⟩
  | cons row rows ih =>
    rw [List.forall_mem_cons] at h
    obtain ⟨⟨hstatement, hblock⟩, hrows⟩ := h
    obtain ⟨harguments, hrest⟩ := ih hrows
    constructor
    · rw [argumentsFrom_cons, hstatement, hblock, ← harguments]
      rfl
    · rw [List.foldl_cons, hblock, ← hrest]

theorem sameFrom_idle (h : ∀ row ∈ rows, row = []) : SameFrom block [] rows := by
  apply sameFrom_silent
  intro row hrow
  rw [h row hrow]
  cases block <;> exact ⟨rfl, rfl⟩

/-- In a block other than `module` no row is a statement, and the block stays open. -/
theorem sameFrom_inner (hverb : verb ≠ "module") (h : ∀ row ∈ rows, row.head? ≠ some ")") :
    SameFrom (some verb) [] rows := by
  apply sameFrom_silent
  intro row hrow
  constructor
  · cases row <;> simp [statement?, hverb]
  · simp [blockAfter, h row hrow]

theorem sameFrom_block (hopening : opening = [verb, "("]) (hverb : verb ≠ "module")
    (hinner : ∀ row ∈ rows, row.head? ≠ some ")") (hclosing : closing.head? = some ")") :
    SameFrom none [] (opening :: (rows ++ [closing])) := by
  subst hopening
  have hopened : blockAfter none [verb, "("] = some verb := rfl
  have hclosed : blockAfter (some verb) closing = none := by simp [blockAfter, hclosing]
  have hstatement : statement? none [verb, "("] = none := by simp [statement?, hverb]
  have hlast : statement? (some verb) closing = none := by
    cases closing <;> simp [statement?, hverb]
  obtain ⟨harguments, hrest⟩ := sameFrom_inner hverb hinner
  constructor
  · rw [argumentsFrom_cons, hstatement, hopened, argumentsFrom_append, ← harguments, ← hrest]
    simp [argumentsFrom, hlast]
  · rw [List.foldl_cons, hopened, List.foldl_append, ← hrest]
    exact hclosed.symm

theorem sameFrom_directive (hfirst : row.head? ≠ some "module") (hopens : opens? row = none) :
    SameFrom none [] [row] := by
  have hstatement : statement? none row = none := by
    cases row with
    | nil => rfl
    | cons first args =>
      have hfirst : first ≠ "module" := by simpa using hfirst
      simp [statement?, hfirst]
  constructor
  · simp [argumentsFrom, hstatement]
  · simp [blockAfter, hopens]

theorem sameFrom_grouped {arg : String} (hopen : arg ≠ "(") (hclose : arg ≠ ")") :
    SameFrom none [["module", arg]] [["module", "("], [arg], [")"]] := by
  constructor
  · simp [argumentsFrom, statement?, blockAfter, opens?, hopen, hclose]
  · simp [blockAfter, opens?, hopen, hclose]

end

/-! ## Carriage returns -/

/-- The characters with a carriage return before every line end. -/
def returned (cs : List Char) : List Char :=
  cs.flatMap fun c => if c = '\n' then ['\r', '\n'] else [c]

/-- The text with a carriage return before every line end. -/
def withReturns (text : String) : String := String.ofList (returned text.toList)

theorem returned_of_not_mem {cs : List Char} (h : '\n' ∉ cs) : returned cs = cs := by
  induction cs with
  | nil => rfl
  | cons c cs ih =>
    rw [List.mem_cons, not_or] at h
    have hrest : returned (c :: cs) = c :: returned cs := by simp [returned, Ne.symm h.1]
    rw [hrest, ih h.2]

/-- A carriage return at the end of a line is not part of its words, so one more does not matter. -/
theorem rows_returned (cs : List Char) :
    (lines (returned cs)).map lineWords = (lines cs).map lineWords := by
  by_cases h : '\n' ∈ cs
  · obtain ⟨line, back, hcs, hline⟩ := List.eq_append_cons_of_mem h
    have hback := rows_returned back
    have hreturned : returned cs = (line ++ ['\r']) ++ '\n' :: returned back := by
      rw [hcs, returned, List.flatMap_append, ← returned, returned_of_not_mem hline]
      simp [returned]
    have hreturn : '\n' ∉ line ++ ['\r'] := by simp [hline]
    rw [hreturned, hcs, lines_cons hreturn, lines_cons hline, List.map_cons, List.map_cons, hback,
      lineWords_dropReturn, lineWords_dropReturn, lineWords_concat (by decide)]
  · rw [returned_of_not_mem h]
termination_by cs.length
decreasing_by simp [hcs]; omega

theorem rowsOf_withReturns (text : String) : rowsOf (withReturns text) = rowsOf text := by
  rw [rowsOf, withReturns, String.toList_ofList, rows_returned, rowsOf]

/-! ## Lines of their own -/

/-- The line is blank, or has a comment only. -/
def IsIdle (line : List Char) : Prop :=
  ∃ blank, (∀ c ∈ blank, isWhiteSpace c = true) ∧
    (line = blank ∨ ∃ comment, line = blank ++ '/' :: '/' :: comment)

theorem IsIdle.lineWords_eq {line : List Char} (h : IsIdle line) : lineWords line = [] := by
  obtain ⟨blank, hblank, hline⟩ := h
  have hinert : ∀ c ∈ blank, isInert c = true := fun c hc => isInert_of_isWhiteSpace (hblank c hc)
  have hstrip : stripComment line = blank := by
    rcases hline with rfl | ⟨comment, rfl⟩
    · have hall := stripComment_append hinert []
      rw [List.append_nil] at hall
      exact hall.trans (List.append_nil line)
    · rw [stripComment_append hinert, stripComment_comment, List.append_nil]
  have hwords := words_blank hblank []
  rw [List.append_nil] at hwords
  rw [lineWords, hstrip, hwords]
  rfl

section
variable {quote : Option Char} {prev : Char} {cs more : List Char}

/-- What is left of a line has no comment any more. -/
theorem stripFrom_idem (quote : Option Char) (prev : Char) (cs : List Char) :
    stripFrom quote prev (stripFrom quote prev cs) = stripFrom quote prev cs := by
  fun_induction stripFrom quote prev cs with
  | case1 => rfl
  | case2 _ c cs q ih => rw [stripFrom, ih]
  | case3 => rfl
  | case4 _ c cs hc ih =>
    rw [stripFrom, if_neg, ih]
    rintro ⟨rfl, hhead⟩
    obtain ⟨rest, hrest⟩ := stripFrom_prefix _ '/' cs
    refine hc ⟨rfl, ?_⟩
    rw [← hrest, List.head?_append, hhead]
    rfl

theorem stripComment_idem (line : List Char) :
    stripComment (stripComment line) = stripComment line := by
  rw [stripComment_eq line, stripComment_eq, stripFrom_idem]

/-- A line without a comment has none in its front part. -/
theorem stripFrom_front (h : stripFrom quote prev (cs ++ more) = cs ++ more) :
    stripFrom quote prev cs = cs := by
  induction cs generalizing quote prev with
  | nil => rfl
  | cons c cs ih =>
    cases quote with
    | some q =>
      rw [List.cons_append, stripFrom] at h
      rw [stripFrom, ih (List.cons.inj h).2]
    | none =>
      rw [List.cons_append, stripFrom] at h
      split at h
      · cases h
      · rename_i hc
        rw [stripFrom, if_neg, ih (List.cons.inj h).2]
        rintro ⟨rfl, hhead⟩
        refine hc ⟨rfl, ?_⟩
        rw [List.head?_append, hhead]
        rfl

/-- **An argument** is a word also on a line of its own. -/
theorem lineWords_argument {line : List Char} {arg : String}
    (h : lineWords line = ["module", arg]) : lineWords arg.toList = [arg] := by
  have hwords : words (stripComment line) = ["module".toList, arg.toList] := by
    have hchars := congrArg (List.map String.toList) h
    simpa [lineWords, Function.comp_def] using hchars
  obtain ⟨blank, rest, hline, hblank, -, -, hrest⟩ := words_eq_cons hwords
  obtain ⟨blank', rest', rfl, hblank', harg, hne, -⟩ := words_eq_cons hrest
  -- The line in front of the argument has no quotation, so the argument begins outside of any.
  have hinert : ∀ c ∈ blank ++ ("module".toList ++ blank'), isInert c = true := by
    have hmodule : ∀ c ∈ "module".toList, isInert c = true := List.all_eq_true.1 rfl
    simp only [List.mem_append]
    rintro c (hc | hc | hc)
    · exact isInert_of_isWhiteSpace (hblank c hc)
    · exact hmodule c hc
    · exact isInert_of_isWhiteSpace (hblank' c hc)
  have hstrip : stripComment arg.toList = arg.toList := by
    have hline' : stripComment line =
        (blank ++ ("module".toList ++ blank')) ++ (arg.toList ++ rest') := by
      rw [hline]
      simp
    have hwhole := stripComment_idem line
    rw [hline', stripComment_append hinert] at hwhole
    have hfront := List.append_cancel_left hwhole
    rw [stripComment_eq] at hfront ⊢
    exact stripFrom_front hfront
  rw [lineWords, hstrip, words_single harg hne]
  simp

end

/-! ## Edits -/

/-- The second text has the lines of the first one, but for `new` in place of `old` between the
lines `front` and `back`. -/
structure Splices (front old new back : List (List Char)) (before after : String) : Prop where
  before : lines before.toList = front ++ (old ++ back)
  after : lines after.toList = front ++ (new ++ back)

/-- No block is open behind the lines. -/
def IsOutside (front : List (List Char)) : Prop := openBlock (front.map lineWords) = none

/-- An edit of a file that keeps its module statements, or groups one of them. -/
inductive Edit (before after : String) : Prop
  /-- Every line end becomes a carriage return and a line end. -/
  | returns (h : after = withReturns before)
  /-- Lines are added that are blank or have comments only, in a block or outside of blocks. -/
  | idle {front added back : List (List Char)} (h : Splices front [] added back before after)
    (hadded : ∀ line ∈ added, IsIdle line)
  /-- A whole block is added outside of blocks. -/
  | block {front inner back : List (List Char)} {opening closing : List Char} {verb : String}
    (h : Splices front [] (opening :: (inner ++ [closing])) back before after)
    (hfront : IsOutside front) (hopening : lineWords opening = [verb, "("])
    (hverb : verb ≠ "module") (hinner : ∀ line ∈ inner, (lineWords line).head? ≠ some ")")
    (hclosing : (lineWords closing).head? = some ")")
  /-- A line that is no module statement and opens no block is added outside of blocks. -/
  | directive {front back : List (List Char)} {line : List Char}
    (h : Splices front [] [line] back before after) (hfront : IsOutside front)
    (hfirst : (lineWords line).head? ≠ some "module") (hopens : opens? (lineWords line) = none)
  /-- A module statement outside of blocks becomes a block with the argument in it. -/
  | grouped {front back : List (List Char)} {line : List Char} {arg : String}
    (h : Splices front [line] ["module (".toList, arg.toList, ")".toList] back before after)
    (hfront : IsOutside front) (hline : lineWords line = ["module", arg]) (hopen : arg ≠ "(")
    (hclose : arg ≠ ")")

theorem Splices.sameFrom {front old new back : List (List Char)} {before after : String}
    (h : Splices front old new back before after)
    (hsame : SameFrom (openBlock (front.map lineWords)) (old.map lineWords) (new.map lineWords)) :
    SameFrom none (rowsOf before) (rowsOf after) := by
  rw [rowsOf, rowsOf, h.before, h.after]
  simp only [List.map_append]
  exact hsame.within (back.map lineWords)

/-- **An edit keeps the module path**, and a file without one has none after it either. -/
theorem modulePath_edited (before after : String) (h : Edit before after) (path : String) :
    modulePath before = .ok path ↔ modulePath after = .ok path := by
  apply SameFrom.modulePath
  cases h with
  | returns h =>
    rw [h, rowsOf_withReturns]
    exact ⟨rfl, rfl⟩
  | idle h hadded =>
    refine h.sameFrom (sameFrom_idle ?_)
    simpa using fun line hline => (hadded line hline).lineWords_eq
  | block h hfront hopening hverb hinner hclosing =>
    apply h.sameFrom
    rw [hfront]
    simpa using sameFrom_block hopening hverb (by simpa using hinner) hclosing
  | directive h hfront hfirst hopens =>
    apply h.sameFrom
    rw [hfront]
    exact sameFrom_directive hfirst hopens
  | grouped h hfront hline hopen hclose =>
    apply h.sameFrom
    have hopening : lineWords "module (".toList = ["module", "("] := rfl
    have hclosing : lineWords ")".toList = [")"] := rfl
    simp only [List.map_cons, List.map_nil, hline, lineWords_argument hline, hopening, hclosing]
    rw [hfront]
    exact sameFrom_grouped hopen hclose

/-- A file with a module statement behind another block. -/
def statedModule : String :=
  "require (\r\n\tx v1 // module (\n)\n module \"example.com//app\"\t// main\ngo 1.22"

/-- The file with the statement grouped. -/
def groupedModule : String :=
  "require (\r\n\tx v1 // module (\n)\nmodule (\n\"example.com//app\"\n)\ngo 1.22"

theorem groupedModule_edited :
    Edit statedModule groupedModule ∧ Edit groupedModule (withReturns groupedModule) ∧
      modulePath (withReturns groupedModule) = .ok "example.com//app" := by
  have hsplices : Splices ["require (".toList, "\tx v1 // module (".toList, ")".toList]
      [" module \"example.com//app\"\t// main".toList]
      ["module (".toList, "\"example.com//app\"".toList, ")".toList] ["go 1.22".toList]
      statedModule groupedModule := ⟨by decide +kernel, by decide +kernel⟩
  have hgrouped : Edit statedModule groupedModule :=
    .grouped hsplices rfl rfl (by decide) (by decide)
  have hstated : modulePath statedModule = .ok "example.com//app" := by decide +kernel
  have hreturns : Edit groupedModule (withReturns groupedModule) := .returns rfl
  refine ⟨hgrouped, hreturns, ?_⟩
  exact (modulePath_edited _ _ hreturns _).1 ((modulePath_edited _ _ hgrouped _).1 hstated)

end Understudy.GoMod
