import Understudy.Proofs.Generate
import Understudy.Proofs.Go.Trees

/-!
# What extraction comes to

Extraction looks for the package clause first, then for the interface, then at the imports. A source
may have several faults; the first of the three decides, and what the interface holds never does.

* `packageName_eq_none`, `findType_eq_none`: what is not found is not there.
* `importSpecs_eq`: the imports of a parsed file are all import specifications in it, in order.
* `importsIn_eq_error`, `importsIn_eq_ok`: the first literal without a meaning stops the imports.
* `generate_eq_noTarget`: a missing interface is reported by extraction and by nothing else.
-/

set_option autoImplicit false

namespace Understudy

open Files Go

namespace Go

/-! ## The package and the interface -/

/-- A package clause stands directly in the file. -/
def HasPackageClause (file : Node) : Prop := ∃ n ∈ file.parts, n.kind = .packageClause

/-- The node declares a type of the given name, or another name for a type. -/
def Node.Declares (n : Node) (name : String) : Prop :=
  (n.kind = .typeSpec ∨ n.kind = .typeAlias) ∧
    ∃ ident, n.child? .name = some ident ∧ ident.text = name

/-- A type of the given name is declared in the file, at any depth. -/
def HasDeclaration (name : String) (file : Node) : Prop :=
  ∃ n, file.HasDescendant n ∧ n.Declares name

theorem declaresType_iff {name : String} {n : Node} :
    declaresType name n = true ↔ n.Declares name := by
  simp only [declaresType, Node.Declares, Bool.and_eq_true, Bool.or_eq_true, decide_eq_true_eq,
    Option.any_eq_true, beq_iff_eq]

theorem clauseName_of_formed {clause : Node} (h : clause.Formed)
    (hk : clause.kind = .packageClause) : ∃ name, clauseName clause = some name := by
  obtain ⟨n, hn, hkind⟩ := h.need hk (.head _)
  have hident : n.kind = .packageIdentifier := by simpa using hkind
  have hnamed : n ∈ clause.named := List.mem_filter.2 ⟨hn, by rw [Node.isNamed, hident]; rfl⟩
  have hfound : (clause.named.find? (fun n => n.kind = .packageIdentifier)).isSome = true :=
    List.find?_isSome.2 ⟨n, hnamed, decide_eq_true hident⟩
  obtain ⟨m, hm⟩ := Option.isSome_iff_exists.1 hfound
  exact ⟨m.text, by rw [clauseName, hm]; rfl⟩

/-- **A file without a package name** has no package clause. -/
theorem packageName_eq_none {file : Node} (h : file.Formed) :
    packageName file = none ↔ ¬ HasPackageClause file := by
  rw [packageName]
  cases hfind : file.parts.find? (fun n => n.kind = .packageClause) with
  | none =>
    rw [List.find?_eq_none] at hfind
    refine iff_of_true rfl ?_
    rintro ⟨n, hn, hk⟩
    exact hfind n hn (decide_eq_true hk)
  | some clause =>
    have hmem := List.mem_of_find?_eq_some hfind
    have hk : clause.kind = .packageClause := by simpa using List.find?_some hfind
    obtain ⟨name, hname⟩ := clauseName_of_formed (h.part hmem) hk
    refine iff_of_false (by simp [hname]) fun hn => hn ⟨clause, hmem, hk⟩

theorem findType_none_iff {root : Node} {name : String} :
    findType name root = none ↔ ∀ n, n = root ∨ root.HasDescendant n → ¬ n.Declares name := by
  rw [findType, List.find?_eq_none]
  simp only [Node.mem_preorder, declaresType_iff]

/-- **A type that is not found** is declared nowhere in the file. -/
theorem findType_eq_none {file : Node} (hk : file.kind = .sourceFile) {name : String} :
    findType name file = none ↔ ¬ HasDeclaration name file := by
  have hroot : ¬ file.Declares name := by
    rintro ⟨hkind | hkind, _⟩ <;> rw [hk] at hkind <;> cases hkind
  rw [findType_none_iff]
  constructor
  · rintro hall ⟨n, hn, hdecl⟩
    exact hall n (.inr hn) hdecl
  · rintro hnone n (rfl | hn) hdecl
    · exact hroot hdecl
    · exact hnone ⟨n, hn, hdecl⟩

/-! ## Imports -/

/-- Whether the node is an import specification. -/
def Node.isImport (n : Node) : Bool := n.kind = .importSpec

/-- The path literals of the imports of a file, in source order. -/
def importLiterals (file : Node) : List String :=
  (file.preorder.filter Node.isImport).filterMap fun spec => (spec.child? .path).map Node.text

/-- Whether imports can stand in nodes of the kind. -/
def Kind.holdsImports : Kind → Bool
  | .sourceFile | .importDeclaration | .importSpecList => true
  | _ => false

/-- Where a part that holds imports can stand. -/
theorem Kind.place_of_holdsImports {kind part : Kind} (h : kind.admits part = true)
    (hp : part.holdsImports = true) :
    kind = .sourceFile ∧ part = .importDeclaration ∨
      kind = .importDeclaration ∧ part = .importSpecList := by
  cases part <;> simp_all [admits, holdsImports]

/-- Where an import can stand. -/
theorem Kind.place_of_import {kind : Kind} (h : kind.admits .importSpec = true) :
    kind = .importDeclaration ∨ kind = .importSpecList := by
  simpa [admits] using h

/-- The imports in a node are the node itself, if it is one, and those in its parts. -/
theorem filter_preorder (n : Node) : n.preorder.filter Node.isImport =
    [n].filter Node.isImport ++ n.named.flatMap fun p => p.preorder.filter Node.isImport := by
  rw [Node.preorder_eq, ← List.singleton_append, List.filter_append, List.filter_flatMap]

theorem flatMap_filter_singleton {α : Type} (p : α → Bool) (xs : List α) :
    (xs.flatMap fun x => [x].filter p) = xs.filter p := by
  rw [← List.filter_flatMap, List.flatMap_singleton']

/-- In a node that cannot hold imports there is none below it. -/
theorem filter_preorder_other {n : Node} (h : n.Formed) (hk : n.kind.holdsImports = false) :
    n.preorder.filter Node.isImport = [n].filter Node.isImport := by
  induction n using Node.induct with
  | leaf r k t => rfl
  | tree r k ps ih =>
    rw [filter_preorder, List.append_right_eq_self, List.flatMap_eq_nil_iff]
    intro p hp
    have hmem := Node.mem_parts_of_named hp
    have hadmits := h.admits hmem
    have hholds : p.kind.holdsImports = false := by
      by_contra hp
      obtain ⟨hk', _⟩ | ⟨hk', _⟩ := Kind.place_of_holdsImports hadmits (by simpa using hp) <;>
        rw [hk'] at hk <;> cases hk
    have hne : p.kind ≠ .importSpec := by
      intro hp
      rw [hp] at hadmits
      obtain hk' | hk' := Kind.place_of_import hadmits <;> rw [hk'] at hk <;> cases hk
    rw [ih p hmem (h.part hmem) hholds]
    simp [Node.isImport, hne]

/-- The imports of a group. -/
theorem filter_preorder_group {n : Node} (h : n.Formed) (hk : n.kind = .importSpecList) :
    n.preorder.filter Node.isImport = n.named.filter Node.isImport := by
  have hself : [n].filter Node.isImport = [] := by simp [Node.isImport, hk]
  rw [filter_preorder, hself, List.nil_append, ← flatMap_filter_singleton]
  apply List.flatMap_congr
  intro p hp
  have hmem := Node.mem_parts_of_named hp
  apply filter_preorder_other (h.part hmem)
  by_contra hp
  have hplace := Kind.place_of_holdsImports (h.admits hmem) (by simpa using hp)
  simp [hk] at hplace

/-- The imports of a declaration. -/
theorem filter_preorder_declaration {n : Node} (h : n.Formed) (hk : n.kind = .importDeclaration) :
    n.preorder.filter Node.isImport = specsOfDeclaration n := by
  have hself : [n].filter Node.isImport = [] := by simp [Node.isImport, hk]
  rw [filter_preorder, hself, List.nil_append, specsOfDeclaration]
  apply List.flatMap_congr
  intro p hp
  have hmem := Node.mem_parts_of_named hp
  by_cases hgroup : p.kind = .importSpecList
  · rw [filter_preorder_group (h.part hmem) hgroup, hgroup]
    rfl
  · have hother : p.kind.holdsImports = false := by
      by_contra hp
      have hplace := Kind.place_of_holdsImports (h.admits hmem) (by simpa using hp)
      simp [hk, hgroup] at hplace
    rw [filter_preorder_other (h.part hmem) hother]
    by_cases hspec : p.kind = .importSpec
    · simp [Node.isImport, hspec]
    · rw [List.filter_cons_of_neg (by simpa [Node.isImport] using hspec)]
      split <;> first | rfl | contradiction

/-- **The imports of a file** are all import specifications in it, alone or in groups. -/
theorem importSpecs_eq {file : Node} (h : file.Formed) (hk : file.kind = .sourceFile) :
    importSpecs file = file.preorder.filter Node.isImport := by
  have hself : [file].filter Node.isImport = [] := by simp [Node.isImport, hk]
  rw [filter_preorder, hself, List.nil_append, importSpecs, ← flatMap_filter_singleton,
    List.flatMap_assoc]
  apply List.flatMap_congr
  intro p hp
  have hmem := Node.mem_parts_of_named hp
  have hadmits := h.admits hmem
  by_cases hdecl : p.kind = .importDeclaration
  · rw [filter_preorder_declaration (h.part hmem) hdecl]
    simp [hdecl]
  · have hother : p.kind.holdsImports = false := by
      by_contra hp
      have hplace := Kind.place_of_holdsImports hadmits (by simpa using hp)
      simp [hk, hdecl] at hplace
    have hne : p.kind ≠ .importSpec := by
      intro hp
      rw [hp] at hadmits
      simpa [hk] using Kind.place_of_import hadmits
    rw [filter_preorder_other (h.part hmem) hother]
    simp [Node.isImport, hdecl, hne]

/-- The path literal of an import. -/
theorem Node.Formed.exists_path {spec : Node} (h : spec.Formed) (hs : spec.isImport = true) :
    ∃ path, spec.child? .path = some path :=
  h.exists_child (by simpa [isImport] using hs) (.head _)

/-- The literal is the first of the row that has no meaning, for the given cause. -/
def FirstFault (literals : List String) (literal : String) (cause : LiteralError) : Prop :=
  ∃ before after, literals = before ++ literal :: after ∧
    (∀ earlier ∈ before, ∃ value, unquote earlier = .ok value) ∧ unquote literal = .error cause

/-- The first fault of a row is at its head, or the head has a meaning. -/
theorem firstFault_cons {first literal : String} {literals : List String} {cause : LiteralError} :
    FirstFault (first :: literals) literal cause ↔
      first = literal ∧ unquote first = .error cause ∨
        (∃ value, unquote first = .ok value) ∧ FirstFault literals literal cause := by
  constructor
  · rintro ⟨before, after, heq, hbefore, hfault⟩
    cases before with
    | nil =>
      obtain ⟨rfl, rfl⟩ := List.cons.inj heq
      exact .inl ⟨rfl, hfault⟩
    | cons earlier before =>
      obtain ⟨rfl, rfl⟩ := List.cons.inj heq
      exact .inr ⟨hbefore _ List.mem_cons_self, before, after, rfl,
        fun l hl => hbefore l (List.mem_cons_of_mem _ hl), hfault⟩
  · rintro (⟨rfl, hfault⟩ | ⟨hfirst, before, after, rfl, hbefore, hfault⟩)
    · exact ⟨[], literals, rfl, by simp, hfault⟩
    · refine ⟨first :: before, after, rfl, fun l hl => ?_, hfault⟩
      rcases List.mem_cons.1 hl with rfl | hl
      · exact hfirst
      · exact hbefore l hl

/-- **Imports are read in order** until a literal has no meaning. -/
theorem importsOf_outcome {specs : List Node}
    (h : ∀ spec ∈ specs, ∃ path, spec.child? .path = some path) :
    (∀ cause, importsOf specs = .error cause ↔ ∃ literal e, cause = .badPath literal e ∧
      FirstFault (specs.filterMap fun spec => (spec.child? .path).map Node.text) literal e) ∧
    ((∃ is, importsOf specs = .ok is) ↔
      ∀ literal ∈ specs.filterMap fun spec => (spec.child? .path).map Node.text,
        ∃ value, unquote literal = .ok value) := by
  induction specs with
  | nil => simp [importsOf, FirstFault]
  | cons spec specs ih =>
    obtain ⟨path, hpath⟩ := h spec List.mem_cons_self
    obtain ⟨iherror, ihok⟩ := ih fun s hs => h s (List.mem_cons_of_mem _ hs)
    simp only [List.filterMap_cons, hpath, Option.map_some, importsOf, importOf, firstFault_cons,
      List.forall_mem_cons]
    cases hread : unquote path.text with
    | error e => simp [eq_comm]
    | ok value =>
      simp only [reduceCtorEq, and_false, Except.ok.injEq, exists_eq', true_and, false_or,
        ← iherror, ← ihok]
      cases importsOf specs <;> simp

/-- Every import comes from the specification in the same place. -/
theorem importsOf_getElem? {specs : List Node} {is : List Import} (h : importsOf specs = .ok is)
    {k : Nat} {i : Import} (hi : is[k]? = some i) :
    ∃ spec, specs[k]? = some spec ∧ importOf spec = .ok i := by
  induction specs generalizing is k with
  | nil =>
    cases h
    cases hi
  | cons spec specs ih =>
    rw [importsOf] at h
    split at h
    · cases h
    · rename_i first hfirst
      split at h
      · cases h
      · rename_i rest hrest
        cases h
        cases k with
        | zero =>
          cases hi
          exact ⟨spec, rfl, hfirst⟩
        | succ k => exact ih hrest hi

theorem exists_of_importOf {spec : Node} {i : Import} (h : importOf spec = .ok i) :
    ∃ path, spec.child? .path = some path ∧ unquote path.text = .ok i.path ∧
      i.name = ((spec.child? .name).map Node.text).getD "" := by
  rw [importOf] at h
  split at h
  · cases h
  · rename_i path hpath
    split at h
    · cases h
    · rename_i value hvalue
      cases h
      exact ⟨path, hpath, hvalue, rfl⟩

/-- The imports of a parsed file, by their literals. -/
theorem imports_outcome {file : Node} (h : file.Formed) (hk : file.kind = .sourceFile) :
    (∀ cause, imports file = .error cause ↔ ∃ literal e, cause = .badPath literal e ∧
      FirstFault (importLiterals file) literal e) ∧
    ((∃ is, imports file = .ok is) ↔
      ∀ literal ∈ importLiterals file, ∃ value, unquote literal = .ok value) := by
  rw [imports, importSpecs_eq h hk]
  refine importsOf_outcome fun spec hspec => ?_
  obtain ⟨hmem, hspec⟩ := List.mem_filter.1 hspec
  exact (h.preorder hmem).exists_path hspec

end Go

/-! ## Extraction -/

/-- **What a success was made from.** -/
theorem exists_of_extract_eq_ok {file : Node} {mock : Mock}
    (h : (extract file).outcome = .ok mock) :
    ∃ package spec is, packageName file = some package ∧ findType targetName file = some spec ∧
      imports file = .ok is ∧ mock = ⟨"", "", package, mockName, is, methodsOf package spec⟩ := by
  rw [extract_eq] at h
  cases hp : packageName file with
  | none => simp [hp] at h
  | some package =>
    cases hs : findType targetName file with
    | none => simp [hp, hs] at h
    | some spec =>
      cases hi : imports file with
      | error e => cases e <;> simp [hp, hs, importsIn, hi] at h
      | ok is =>
        simp only [hp, hs, importsIn, hi, Except.ok.injEq] at h
        exact ⟨package, spec, is, rfl, rfl, rfl, h.symm⟩

section
variable {d : Disk} {formatter : Formatter} {o : Options} {file : Node}

/-- Why the imports of a parsed file cannot be used. -/
theorem importsIn_eq_error (h : file.Formed) (hk : file.kind = .sourceFile) {e : Failure} :
    importsIn file = .error e ↔
      ∃ literal cause, e = .badImport literal cause ∧
        FirstFault (importLiterals file) literal cause := by
  have herror := (imports_outcome h hk).1
  constructor
  · intro he
    rw [importsIn] at he
    split at he
    · cases he
    · rename_i hi
      obtain ⟨literal, cause, hcause, _⟩ := (herror _).1 hi
      cases hcause
    · rename_i literal cause hi
      obtain ⟨_, _, hcause, hfault⟩ := (herror _).1 hi
      cases hcause
      cases he
      exact ⟨literal, cause, rfl, hfault⟩
  · rintro ⟨literal, cause, rfl, hfault⟩
    rw [importsIn, (herror _).2 ⟨literal, cause, rfl, hfault⟩]

theorem importsIn_eq_ok (h : file.Formed) (hk : file.kind = .sourceFile) :
    (∃ is, importsIn file = .ok is) ↔
      ∀ literal ∈ importLiterals file, ∃ value, unquote literal = .ok value := by
  rw [← (imports_outcome h hk).2, importsIn]
  rcases Go.imports file with (_ | _) | is <;> simp

theorem kind_of_parse {source : String} (h : parse source = some file) :
    file.kind = .sourceFile := by
  obtain ⟨items, _, rfl, _⟩ := derives_of_parse h
  rfl

theorem hasPackageClause_of_packageName (h : file.Formed) {package : String}
    (hp : packageName file = some package) : HasPackageClause file := by
  by_contra hclause
  rw [(packageName_eq_none h).2 hclause] at hp
  cases hp

theorem hasDeclaration_of_findType (hk : file.kind = .sourceFile) {name : String} {spec : Node}
    (hs : findType name file = some spec) : HasDeclaration name file := by
  by_contra hdecl
  rw [(findType_eq_none hk).2 hdecl] at hs
  cases hs

/-- **Why extraction fails**: the first of its three steps that does. -/
theorem extract_eq_error (h : file.Formed) (hk : file.kind = .sourceFile) {e : Failure} :
    (extract file).outcome = .error e ↔
      ¬ HasPackageClause file ∧ e = .source none .noPackageClause ∨
      HasPackageClause file ∧ (¬ HasDeclaration targetName file ∧ e = .noTarget ∨
        HasDeclaration targetName file ∧ ∃ literal cause, e = .badImport literal cause ∧
          FirstFault (importLiterals file) literal cause) := by
  rw [extract_eq, ← importsIn_eq_error h hk]
  cases hp : packageName file with
  | none => simp [(packageName_eq_none h).1 hp, eq_comm]
  | some package =>
    have hclause := hasPackageClause_of_packageName h hp
    cases hs : findType targetName file with
    | none => simp [hclause, (findType_eq_none hk).1 hs, eq_comm]
    | some spec =>
      have hdecl := hasDeclaration_of_findType hk hs
      cases importsIn file <;> simp [hclause, hdecl]

/-- **When extraction succeeds**, whatever the interface holds. -/
theorem extract_eq_ok (h : file.Formed) (hk : file.kind = .sourceFile) :
    (∃ mock, (extract file).outcome = .ok mock) ↔
      HasPackageClause file ∧ HasDeclaration targetName file ∧
        ∀ literal ∈ importLiterals file, ∃ value, unquote literal = .ok value := by
  rw [extract_eq, ← importsIn_eq_ok h hk]
  cases hp : packageName file with
  | none => simp [(packageName_eq_none h).1 hp]
  | some package =>
    have hclause := hasPackageClause_of_packageName h hp
    cases hs : findType targetName file with
    | none => simp [(findType_eq_none hk).1 hs]
    | some spec =>
      have hdecl := hasDeclaration_of_findType hk hs
      cases importsIn file <;> simp [hclause, hdecl]

/-! ## Generating -/

theorem isMissingTarget_iff {e : Failure} : e.isMissingTarget = true ↔ e = .noTarget := by
  cases e <;> simp [Failure.isMissingTarget]

theorem parseSource_eq_ok {path : Option OsText} {source : String} :
    parseSource path source = .ok file ↔ parse source = some file := by
  unfold parseSource
  generalize parse source = tree
  cases tree <;> simp

theorem parseSource_ne_noTarget {path : Option OsText} {source : String} :
    parseSource path source ≠ .error .noTarget := by
  unfold parseSource
  generalize parse source = tree
  cases tree <;> simp

theorem parseFile_eq_ok {path : OsText} : parseFile d path = .ok file ↔
    ∃ source, d.readText path = .ok source ∧ parse source = some file := by
  unfold parseFile
  cases d.readText path <;> simp [parseSource_eq_ok]

theorem genPackage_ne_noTarget {cwd : OsText} : o.genPackage cwd ≠ .error .noTarget := by
  unfold Options.genPackage derivedPackage
  split
  · simp
  · split
    · simp
    · split <;> simp

theorem declaredModule_ne_noTarget {file : OsText} :
    declaredModule d file ≠ .error .noTarget := by
  simp only [declaredModule]
  split
  · simp
  · split <;> simp

theorem packageIn_ne_noTarget {dir : OsText} :
    (packageIn d dir).outcome ≠ .error .noTarget := by
  unfold packageIn
  split
  · simp [Attempt.fail]
  · rename_i root _
    cases Path.stripPrefix? root dir <;>
      simp [Attempt.bind_eq_error, declaredModule_ne_noTarget, Attempt.fail]

theorem modelPath_ne_noTarget {input : OsText} :
    (modelPath d input).outcome ≠ .error .noTarget := by
  unfold modelPath
  split
  · simp [Attempt.fail]
  · split
    · simp [Attempt.fail]
    · exact packageIn_ne_noTarget

theorem renderWith_ne_noTarget {m : Mock} {template : String} :
    m.renderWith template ≠ .error .noTarget := by
  unfold Mock.renderWith
  split
  · simp
  · split <;> simp

/-- **A missing interface is reported by extraction alone**, unless the formatter reports one. -/
theorem generate_eq_noTarget (hf : ∀ text, (formatter text).outcome ≠ .error .noTarget) :
    (generate d formatter o).outcome = .error .noTarget ↔
      ∃ file, parseFile d o.input = .ok file ∧ (extract file).outcome = .error .noTarget := by
  rw [generate_eq_error]
  constructor
  · intro h
    -- One case for each step that can fail; no step but extraction has this failure.
    generalize he : Failure.noTarget = e at h
    cases h with
    | reading _ | template _ _ _ => cases he
    | parsing _ h => exact absurd (he ▸ h) parseSource_ne_noTarget
    | extraction htree h => exact ⟨_, htree, he ▸ h⟩
    | package _ _ h => exact absurd (he ▸ h) genPackage_ne_noTarget
    | module _ _ _ h => exact absurd (he ▸ h) modelPath_ne_noTarget
    | rendering _ _ h => exact absurd (he ▸ h) renderWith_ne_noTarget
    | formatting _ _ _ _ h => exact absurd (he ▸ h) (hf _)
  · rintro ⟨file, htree, h⟩
    exact .extraction htree h

end

/-- A program that formats does not report a missing interface. -/
theorem Formatter.program_ne_noTarget (d : Disk) (dirs : List OsText) (name : String)
    (text : ByteArray) : (program d dirs name text).outcome ≠ .error .noTarget := by
  have hresult : ∀ run, result name run ≠ .error .noTarget := by
    intro run
    unfold result
    split
    · simp
    · split
      · simp
      · split <;> simp
  simp [program, Attempt.bind_eq_error, hresult]

/-- **The outcome of extraction is decided in order.** Without a package clause nothing else
matters; with one, a missing interface comes before all imports; then the first import literal
without a meaning decides; and otherwise extraction succeeds. So generating reports a missing
interface exactly for a source that can be read and parsed, has a package clause and declares no
type of the name anywhere, whatever the other options, files and the template are, with every
formatter that does not report one itself. -/
theorem extraction_decided :
    (∀ source file, parse source = some file →
      ((extract file).outcome = .error (.source none .noPackageClause) ↔ ¬ HasPackageClause file) ∧
      ((extract file).outcome = .error .noTarget ↔
        HasPackageClause file ∧ ¬ HasDeclaration "Querier" file) ∧
      (∀ literal cause, (extract file).outcome = .error (.badImport literal cause) ↔
        HasPackageClause file ∧ HasDeclaration "Querier" file ∧
          FirstFault (importLiterals file) literal cause) ∧
      ((∃ mock, (extract file).outcome = .ok mock) ↔
        HasPackageClause file ∧ HasDeclaration "Querier" file ∧
          ∀ literal ∈ importLiterals file, ∃ value, unquote literal = .ok value)) ∧
    ∀ (d : Disk) (formatter : Formatter) (o : Options),
      (∀ text, (formatter text).outcome ≠ .error .noTarget) →
      ((∃ e, (generate d formatter o).outcome = .error e ∧ e.isMissingTarget = true) ↔
        ∃ source file, d.readText o.input = .ok source ∧ parse source = some file ∧
          HasPackageClause file ∧ ¬ HasDeclaration "Querier" file) := by
  refine ⟨fun source file hparse => ?_, fun d formatter o hf => ?_⟩
  · have hformed := parse_formed hparse
    have hkind := kind_of_parse hparse
    refine ⟨?_, ?_, fun literal cause => ?_, extract_eq_ok hformed hkind⟩
    · simp [extract_eq_error hformed hkind]
    · simp [extract_eq_error hformed hkind, targetName]
    · simp [extract_eq_error hformed hkind, targetName]
  · simp only [isMissingTarget_iff, exists_eq_right, generate_eq_noTarget hf, parseFile_eq_ok]
    constructor
    · rintro ⟨file, ⟨source, hread, hparse⟩, hfails⟩
      have hcauses := (extract_eq_error (parse_formed hparse) (kind_of_parse hparse)).1 hfails
      simp only [reduceCtorEq, and_false, false_and, exists_false, or_false, false_or, and_true]
        at hcauses
      exact ⟨source, file, hread, hparse, hcauses⟩
    · rintro ⟨source, file, hread, hparse, hclause, hdecl⟩
      refine ⟨file, ⟨source, hread, hparse⟩, ?_⟩
      exact (extract_eq_error (parse_formed hparse) (kind_of_parse hparse)).2
        (.inr ⟨hclause, .inl ⟨hdecl, rfl⟩⟩)

/-- A source with an import that cannot be read and without the interface. -/
def targetlessSource : String := "package db\n\nimport \"bad\\q\"\n"

/-- A disk with that source. -/
def targetlessDisk : Disk where
  entries := [(["db.go"], .file targetlessSource.toUTF8 false)]
  cwd := []

/-- Options that ask for a mock of that source. -/
def targetlessOptions : Options := ⟨"db.go", "mocks/db.go", none, none, true⟩

/-- Of the two faults of the source the missing interface is reported. -/
theorem targetless_decided :
    (∃ file, parse targetlessSource = some file ∧ (extract file).outcome = .error .noTarget) ∧
    ∃ e, (generate targetlessDisk (Formatter.program targetlessDisk [] "gofmt")
      targetlessOptions).outcome = .error e ∧ e.isMissingTarget = true := by
  have hread : targetlessDisk.readText "db.go" = .ok targetlessSource :=
    eq_ok_of_toOption (by decide +kernel)
  have hpackage : (parse targetlessSource).bind packageName = some "db" := by decide +kernel
  have htype : ((parse targetlessSource).bind (findType "Querier")).isNone = true := by
    decide +kernel
  obtain ⟨file, hparse, hpackage⟩ := Option.bind_eq_some_iff.1 hpackage
  rw [hparse, Option.bind_some, Option.isNone_iff_eq_none] at htype
  have hclause := hasPackageClause_of_packageName (parse_formed hparse) hpackage
  have hdecl := (findType_eq_none (kind_of_parse hparse)).1 htype
  exact ⟨⟨file, hparse, (extraction_decided.1 _ file hparse).2.1.2 ⟨hclause, hdecl⟩⟩,
    (extraction_decided.2 targetlessDisk _ targetlessOptions
      (Formatter.program_ne_noTarget _ _ _)).2 ⟨_, file, hread, hparse, hclause, hdecl⟩⟩

end Understudy
