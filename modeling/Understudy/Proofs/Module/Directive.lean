import Understudy.Module.GoMod

/-!
# What a `go.mod` file declares

The lines of a file are rows of words. Which of them are module statements depends on the blocks
alone, so the statements can be listed before any of them is looked at; the file then declares a
path, or is refused, by that list and by the block that is left open.

* `blockAfter`, `statement?`: what a row does to the block, and what it states.
* `statements`, `openBlock`: the module statements of all rows, and the block left open behind them.
* `FirstFault`: the first statement that repeats another one or is malformed.
* `modulePath_eq`: a file is read as its list of statements is.
* `modulePath_decided`: when a file declares a path, and which error it is refused with otherwise.
-/

set_option autoImplicit false

namespace Understudy.GoMod

open Go Text

/-! ## Statements -/

/-- The block that a row opens outside of blocks: two words, the second a bracket. -/
def opens? : List String → Option String
  | [verb, bracket] => if bracket = "(" then some verb else none
  | _ => none

/-- The block that is open after a row, by the block before it. -/
def blockAfter : Option String → List String → Option String
  | none, row => opens? row
  | some verb, row => if row.head? = some ")" then none else some verb

/-- The arguments of the module statement that a row is, by the block around it. -/
def statement? : Option String → List String → Option (List String)
  | _, [] => none
  | none, verb :: args =>
    if verb = "module" ∧ opens? (verb :: args) = none then some args else none
  | some verb, first :: args =>
    if verb = "module" ∧ first ≠ ")" then some (first :: args) else none

/-- A module statement, with the number of its line. -/
structure Statement where
  line : Nat
  arguments : List String
deriving DecidableEq

/-- The module statements of the rows from line `n` on, by the block that is open there. -/
def statementsFrom (block : Option String) (n : Nat) : List (List String) → List Statement
  | [] => []
  | row :: rows =>
    ((statement? block row).map (Statement.mk n)).toList ++
      statementsFrom (blockAfter block row) (n + 1) rows

/-- The module statements of a file. -/
def statements (rows : List (List String)) : List Statement := statementsFrom none 1 rows

/-- The block that is open at the end of a file. -/
def openBlock (rows : List (List String)) : Option String := rows.foldl blockAfter none

/-- The lines of a file, as rows of words. -/
def rowsOf (content : String) : List (List String) := (lines content.toList).map lineWords

/-! ## Paths and faults -/

/-- The argument starts with neither of the quotes. -/
def IsBare (arg : String) : Prop := ∀ c cs, arg.toList = c :: cs → c ≠ '"' ∧ c ≠ '`'

/-- The path that an argument spells. -/
def Spells (arg path : String) : Prop := IsBare arg ∧ path = arg ∨ unquote arg = .ok path

/-- The statement declares the path. -/
def Statement.Declares (s : Statement) (path : String) : Prop :=
  path ≠ "" ∧ ∃ arg, s.arguments = [arg] ∧ Spells arg path

/-- The statement declares nothing by itself, and the error says why. -/
inductive Statement.Malformed (s : Statement) : GoModError → Prop
  | arguments (h : ∀ arg, s.arguments ≠ [arg]) : Malformed s (.badArguments s.line)
  | literal {arg : String} {cause : LiteralError} (h : s.arguments = [arg]) (harg : ¬ IsBare arg)
    (hcause : unquote arg = .error cause) : Malformed s (.badLiteral s.line cause)
  | empty {arg : String} (h : s.arguments = [arg]) (harg : Spells arg "") :
    Malformed s (.emptyPath s.line)

/-- The statement is refused behind the earlier ones: it repeats them, or it is malformed. -/
def Statement.Refused (earlier : List Statement) (s : Statement) (err : GoModError) : Prop :=
  earlier ≠ [] ∧ err = .repeatedStatement s.line ∨ earlier = [] ∧ s.Malformed err

/-- The first of the statements to be refused is refused with the error. -/
def FirstFault (all : List Statement) (err : GoModError) : Prop :=
  ∃ earlier s later, all = earlier ++ s :: later ∧ s.Refused earlier err ∧
    ∀ earlier' s' later' err', earlier = earlier' ++ s' :: later' → ¬ s'.Refused earlier' err'

section
variable {arg path : String} {s : Statement} {all more : List Statement} {err : GoModError}

theorem isLiteral_iff : isLiteral arg = true ↔ ¬ IsBare arg := by
  rw [isLiteral, IsBare]
  cases arg.toList with
  | nil => simp
  | cons c cs => simp [isQuote]; grind

theorem not_isBare_of_unquote (h : unquote arg = .ok path) : ¬ IsBare arg := by
  intro hbare
  rw [unquote] at h
  split at h
  · cases h
  · rename_i quote rest harg
    have hquote := hbare quote rest harg
    rw [if_neg (by grind)] at h
    cases h

theorem argumentPath_bare {n : Nat} (h : IsBare arg) :
    argumentPath n [arg] = if arg = "" then .error (.emptyPath n) else .ok arg := by
  have hliteral : ¬ isLiteral arg = true := fun h' => isLiteral_iff.1 h' h
  simp [argumentPath, hliteral]

theorem argumentPath_quoted {n : Nat} (h : ¬ IsBare arg) :
    argumentPath n [arg] = match unquote arg with
      | .error cause => .error (.badLiteral n cause)
      | .ok path => if path = "" then .error (.emptyPath n) else .ok path := by
  simp only [argumentPath, isLiteral_iff.2 h, if_true]
  cases unquote arg <;> rfl

theorem argumentPath_spelled {n : Nat} (h : Spells arg path) :
    argumentPath n [arg] = if path = "" then .error (.emptyPath n) else .ok path := by
  obtain ⟨hbare, rfl⟩ | hquoted := h
  · exact argumentPath_bare hbare
  · rw [argumentPath_quoted (not_isBare_of_unquote hquoted), hquoted]

theorem Statement.Declares.argumentPath (h : s.Declares path) :
    argumentPath s.line s.arguments = .ok path := by
  obtain ⟨hpath, arg, harg, hspells⟩ := h
  rw [harg, argumentPath_spelled hspells, if_neg hpath]

theorem Statement.Malformed.argumentPath (h : s.Malformed err) :
    argumentPath s.line s.arguments = .error err := by
  cases h with
  | arguments h =>
    unfold GoMod.argumentPath
    split
    · rename_i arg harg
      exact absurd harg (h arg)
    · rfl
  | literal h harg hcause => rw [h, argumentPath_quoted harg, hcause]
  | empty h harg => rw [h, argumentPath_spelled harg, if_pos rfl]

/-- A statement declares a path or is malformed. -/
theorem Statement.declares_or_malformed (s : Statement) :
    (∃ path, s.Declares path) ∨ ∃ err, s.Malformed err := by
  by_cases hone : ∃ arg, s.arguments = [arg]
  · obtain ⟨arg, harg⟩ := hone
    have hspelled : ∀ path, Spells arg path →
        (∃ path, s.Declares path) ∨ ∃ err, s.Malformed err := by
      intro path hpath
      by_cases hempty : path = ""
      · subst hempty
        exact .inr ⟨_, .empty harg hpath⟩
      · exact .inl ⟨path, hempty, arg, harg, hpath⟩
    by_cases hbare : IsBare arg
    · exact hspelled arg (.inl ⟨hbare, rfl⟩)
    · cases hread : unquote arg with
      | ok path => exact hspelled path (.inr hread)
      | error cause => exact .inr ⟨_, .literal harg hbare hread⟩
  · exact .inr ⟨_, .arguments fun arg harg => hone ⟨arg, harg⟩⟩

/-! ## Lists of statements -/

/-- The path declared by the statements in turn, when `found` is the path declared before them. -/
def declareAll (found : Option String) : List Statement → Except GoModError (Option String)
  | [] => .ok found
  | s :: rest =>
    match declare found s.line s.arguments with
    | .error err => .error err
    | .ok path => declareAll (some path) rest

theorem declareAll_some (found : String) (all : List Statement) :
    declareAll (some found) all = match all with
      | [] => .ok (some found)
      | s :: _ => .error (.repeatedStatement s.line) := by
  cases all <;> rfl

theorem Statement.Declares.declareAll (h : s.Declares path) (rest : List Statement) :
    declareAll none (s :: rest) = declareAll (some path) rest := by
  simp only [GoMod.declareAll, declare, h.argumentPath]

theorem Statement.Malformed.declareAll (h : s.Malformed err) (rest : List Statement) :
    declareAll none (s :: rest) = .error err := by
  simp only [GoMod.declareAll, declare, h.argumentPath]

theorem Statement.Declares.not_malformed (h : s.Declares path) : ¬ s.Malformed err := by
  intro h'
  cases h.argumentPath.symm.trans h'.argumentPath

/-- **All statements are accepted** if there is none, or one that declares a path. -/
theorem declareAll_eq_ok_iff {found : Option String} :
    declareAll none all = .ok found ↔
      all = [] ∧ found = none ∨ ∃ s path, all = [s] ∧ s.Declares path ∧ found = some path := by
  constructor
  · intro h
    cases all with
    | nil =>
      cases h
      exact .inl ⟨rfl, rfl⟩
    | cons s rest =>
      obtain ⟨path, hpath⟩ | ⟨err, herr⟩ := s.declares_or_malformed
      · rw [hpath.declareAll, declareAll_some] at h
        cases rest with
        | nil =>
          cases h
          exact .inr ⟨s, path, rfl, hpath, rfl⟩
        | cons => cases h
      · cases h.symm.trans (herr.declareAll rest)
  · rintro (⟨rfl, rfl⟩ | ⟨s, path, rfl, hpath, rfl⟩)
    · rfl
    · rw [hpath.declareAll, declareAll_some]

theorem FirstFault.append (h : FirstFault all err) (more : List Statement) :
    FirstFault (all ++ more) err := by
  obtain ⟨earlier, s, later, rfl, hrefused, hfirst⟩ := h
  exact ⟨earlier, s, later ++ more, by simp, hrefused, hfirst⟩

theorem not_firstFault_nil : ¬ FirstFault [] err := by
  rintro ⟨earlier, s, later, h, -⟩
  simp at h

/-- Only the first statement can be malformed, and only the second one repeated. -/
theorem firstFault_cons_iff :
    FirstFault (s :: all) err ↔ s.Malformed err ∨ (∃ path, s.Declares path) ∧
      ∃ s' rest, all = s' :: rest ∧ err = .repeatedStatement s'.line := by
  constructor
  · rintro ⟨earlier, s', later, hall, hrefused, hfirst⟩
    cases earlier with
    | nil =>
      cases hall
      obtain ⟨h, -⟩ | ⟨-, hmalformed⟩ := hrefused
      · exact absurd rfl h
      · exact .inl hmalformed
    | cons s₁ between =>
      rw [List.cons_append] at hall
      obtain ⟨rfl, hrest⟩ := List.cons.inj hall
      obtain ⟨-, rfl⟩ | ⟨h, -⟩ := hrefused
      · refine .inr ⟨?_, ?_⟩
        · obtain hpath | ⟨err, herr⟩ := s.declares_or_malformed
          · exact hpath
          · exact absurd (.inr ⟨rfl, herr⟩) (hfirst [] s between err rfl)
        · cases between with
          | nil => exact ⟨s', later, hrest, rfl⟩
          | cons s₂ between =>
            -- The second statement would have been refused before this one.
            exact absurd (.inl ⟨List.cons_ne_nil _ _, rfl⟩) (hfirst [s] s₂ between _ rfl)
      · cases h
  · rintro (hmalformed | ⟨⟨path, hpath⟩, s', rest, rfl, rfl⟩)
    · exact ⟨[], s, all, rfl, .inr ⟨rfl, hmalformed⟩, by simp⟩
    · refine ⟨[s], s', rest, rfl, .inl ⟨List.cons_ne_nil _ _, rfl⟩, ?_⟩
      rintro earlier' s'' later' err' h hrefused
      cases earlier' with
      | nil =>
        cases h
        obtain ⟨h, -⟩ | ⟨-, hmalformed⟩ := hrefused
        · exact h rfl
        · cases hpath.argumentPath.symm.trans hmalformed.argumentPath
      | cons => simp at h

/-- **The statements are refused** for the first fault among them. -/
theorem declareAll_eq_error_iff : declareAll none all = .error err ↔ FirstFault all err := by
  cases all with
  | nil => simp [declareAll, not_firstFault_nil]
  | cons s rest =>
    rw [firstFault_cons_iff]
    obtain ⟨path, hpath⟩ | ⟨err', herr⟩ := s.declares_or_malformed
    · have hdeclares : ∃ path, s.Declares path := ⟨path, hpath⟩
      rw [hpath.declareAll, declareAll_some]
      cases rest <;> simp [hpath.not_malformed, hdeclares, eq_comm]
    · have hunique : s.Malformed err ↔ err' = err := by
        refine ⟨fun h => ?_, fun h => h ▸ herr⟩
        cases herr.argumentPath.symm.trans h.argumentPath
        rfl
      have hdeclares : ¬ ∃ path, s.Declares path := fun ⟨_, hpath⟩ => hpath.not_malformed herr
      rw [herr.declareAll, hunique]
      simp [hdeclares]

/-! ## Files -/

/-- What a file comes to at its end, by the block that is open and the path that was declared. -/
def finish : Option String → Option String → Except GoModError String
  | some _, _ => .error .unterminatedBlock
  | none, some path => .ok path
  | none, none => .error .noDirective

theorem finish_eq_ok_iff {block found : Option String} :
    finish block found = .ok path ↔ block = none ∧ found = some path := by
  cases block <;> cases found <;> simp [finish]

theorem finish_eq_error_iff {block found : Option String} :
    finish block found = .error err ↔ block ≠ none ∧ err = .unterminatedBlock ∨
      block = none ∧ found = none ∧ err = .noDirective := by
  cases block <;> cases found <;> simp [finish, eq_comm]

theorem readLines_nil (block found : Option String) (n : Nat) :
    readLines block found n [] = finish block found := by
  cases block <;> cases found <;> rfl

/-- One line: its statement is declared, and the block is the one after it. -/
theorem readLines_cons (block found : Option String) (n : Nat) (line : List Char)
    (rest : List (List Char)) :
    readLines block found n (line :: rest) =
      match statement? block (lineWords line) with
      | none => readLines (blockAfter block (lineWords line)) found (n + 1) rest
      | some args =>
        match declare found n args with
        | .error err => .error err
        | .ok path =>
          readLines (blockAfter block (lineWords line)) (some path) (n + 1) rest := by
  conv => lhs; unfold readLines
  generalize lineWords line = row
  cases row with
  | nil => cases block <;> rfl
  | cons first args =>
    cases block with
    | none =>
      by_cases hopen : args = ["("]
      · subst hopen
        simp [statement?, blockAfter, opens?]
      · have hopens : opens? (first :: args) = none := by
          unfold opens?
          grind
        by_cases hfirst : first = "module"
        · subst hfirst
          cases hdeclare : declare found n args <;>
            simp [statement?, blockAfter, hopens, hopen, hdeclare]
        · simp [statement?, blockAfter, hopen, hfirst, hopens]
    | some verb =>
      by_cases hclose : first = ")"
      · simp [statement?, blockAfter, hclose]
      · have hblock : blockAfter (some verb) (first :: args) = some verb := by
          simp [blockAfter, hclose]
        by_cases hverb : verb = "module"
        · subst hverb
          cases hdeclare : declare found n (first :: args) <;>
            simp [statement?, hblock, hclose, hdeclare]
        · simp [statement?, hblock, hclose, hverb]

/-- **A file is read** as its statements are, and then by the block that is left open. -/
theorem readLines_eq (block found : Option String) (n : Nat) (text : List (List Char)) :
    readLines block found n text =
      (declareAll found (statementsFrom block n (text.map lineWords))).bind
        (finish ((text.map lineWords).foldl blockAfter block)) := by
  -- Whether a line is a statement depends on the block alone, never on what was found so far.
  induction text generalizing block found n with
  | nil => exact readLines_nil block found n
  | cons line rest ih =>
    rw [readLines_cons, List.map_cons, statementsFrom, List.foldl_cons]
    cases statement? block (lineWords line) with
    | none => exact ih _ _ _
    | some args =>
      simp only [Option.map_some, Option.toList_some, List.singleton_append, declareAll]
      cases declare found n args with
      | error err => rfl
      | ok path => exact ih _ _ _

theorem modulePath_eq (content : String) :
    modulePath content =
      (declareAll none (statements (rowsOf content))).bind (finish (openBlock (rowsOf content))) :=
  readLines_eq none none 1 (lines content.toList)

theorem statementsFrom_append (block : Option String) (n : Nat) (front back : List (List String)) :
    ∃ more, statementsFrom block n (front ++ back) = statementsFrom block n front ++ more := by
  induction front generalizing block n with
  | nil => exact ⟨_, rfl⟩
  | cons row rows ih =>
    obtain ⟨more, hmore⟩ := ih (blockAfter block row) (n + 1)
    exact ⟨more, by rw [List.cons_append, statementsFrom, statementsFrom, hmore, List.append_assoc]⟩

theorem modulePath_eq_ok_iff {content : String} :
    modulePath content = .ok path ↔ openBlock (rowsOf content) = none ∧
      ∃ s, statements (rowsOf content) = [s] ∧ s.Declares path := by
  rw [modulePath_eq]
  constructor
  · intro h
    cases hall : declareAll none (statements (rowsOf content)) with
    | error err =>
      rw [hall] at h
      cases h
    | ok found =>
      rw [hall] at h
      obtain ⟨hopen, rfl⟩ := finish_eq_ok_iff.1 h
      obtain ⟨-, hfound⟩ | ⟨s, path', hs, hdeclares, hfound⟩ := declareAll_eq_ok_iff.1 hall
      · cases hfound
      · cases hfound
        exact ⟨hopen, s, hs, hdeclares⟩
  · rintro ⟨hopen, s, hs, hdeclares⟩
    rw [declareAll_eq_ok_iff.2 (.inr ⟨s, path, hs, hdeclares, rfl⟩)]
    exact finish_eq_ok_iff.2 ⟨hopen, rfl⟩

theorem FirstFault.modulePath {content : String}
    (h : FirstFault (statements (rowsOf content)) err) : modulePath content = .error err := by
  rw [modulePath_eq, declareAll_eq_error_iff.2 h]
  rfl

theorem modulePath_eq_error_iff {content : String} :
    modulePath content = .error err ↔
      FirstFault (statements (rowsOf content)) err ∨
        (∀ err', ¬ FirstFault (statements (rowsOf content)) err') ∧
          (openBlock (rowsOf content) ≠ none ∧ err = .unterminatedBlock ∨
            openBlock (rowsOf content) = none ∧ statements (rowsOf content) = [] ∧
              err = .noDirective) := by
  cases hall : declareAll none (statements (rowsOf content)) with
  | error err' =>
    have hfault := declareAll_eq_error_iff.1 hall
    constructor
    · intro h
      cases hfault.modulePath.symm.trans h
      exact .inl hfault
    · rintro (h | ⟨h, -⟩)
      · exact h.modulePath
      · exact absurd hfault (h err')
  | ok found =>
    have hnone : ∀ err', ¬ FirstFault (statements (rowsOf content)) err' := by
      intro err' h
      cases hall.symm.trans (declareAll_eq_error_iff.2 h)
    have hfound : found = none ↔ statements (rowsOf content) = [] := by
      obtain ⟨hs, rfl⟩ | ⟨s, path, hs, -, rfl⟩ := declareAll_eq_ok_iff.1 hall <;> simp [hs]
    rw [modulePath_eq, hall, ← hfound]
    simp only [hnone, false_or, not_false_eq_true, implies_true, true_and]
    exact finish_eq_error_iff

/-- **A file declares a path** if all blocks are closed and there is exactly one module statement,
which declares it. Otherwise the first statement to be refused is reported, whatever lines follow
it; then a block left open, and last that there is no statement. -/
theorem modulePath_decided (content : String) :
    (∀ path, modulePath content = .ok path ↔
      openBlock (rowsOf content) = none ∧
        ∃ s, statements (rowsOf content) = [s] ∧ s.Declares path) ∧
    (∀ err, modulePath content = .error err ↔
      FirstFault (statements (rowsOf content)) err ∨
        (∀ err', ¬ FirstFault (statements (rowsOf content)) err') ∧
          (openBlock (rowsOf content) ≠ none ∧ err = .unterminatedBlock ∨
            openBlock (rowsOf content) = none ∧ statements (rowsOf content) = [] ∧
              err = .noDirective)) ∧
    ∀ front err, front <+: rowsOf content → FirstFault (statements front) err →
      modulePath content = .error err := by
  refine ⟨fun path => modulePath_eq_ok_iff, fun err => modulePath_eq_error_iff, ?_⟩
  rintro front err ⟨back, hrows⟩ hfault
  obtain ⟨more, hmore⟩ := statementsFrom_append none 1 front back
  apply FirstFault.modulePath
  rw [statements, ← hrows, hmore]
  exact hfault.append more

end

/-- A file with a second module statement in a block that is left open. -/
def doubledModule : String :=
  "// app\nmodule (\n\t`example.com/app` // main\n)\nmodule (\n\tb c\ngo 1.22\n"

theorem doubledModule_refused :
    (rowsOf doubledModule).take 6 <+: rowsOf doubledModule ∧
      FirstFault (statements ((rowsOf doubledModule).take 6)) (.repeatedStatement 6) ∧
      modulePath doubledModule = .error (.repeatedStatement 6) := by
  have hfront := List.take_prefix 6 (rowsOf doubledModule)
  have hstatements : statements ((rowsOf doubledModule).take 6) =
      [⟨3, ["`example.com/app`"]⟩, ⟨6, ["b", "c"]⟩] := by decide +kernel
  have hfault : FirstFault (statements ((rowsOf doubledModule).take 6)) (.repeatedStatement 6) := by
    rw [hstatements]
    exact declareAll_eq_error_iff.1 rfl
  exact ⟨hfront, hfault, (modulePath_decided doubledModule).2.2 _ _ hfront hfault⟩

end Understudy.GoMod
