import Understudy.Generate
import Understudy.Proofs.Core
import Understudy.Proofs.Files.Writing

/-!
# What generating a file changes

The output is written only after all steps of generating have succeeded. A step that fails leaves the
disk as it is; a directory that cannot be made or a file that cannot be written leaves at most new
directories above the output; and a run that succeeds changes, besides adding those directories, the
one file that the output path leads to.

* `Fails`: the steps that may fail, `generate_eq_error`: generating fails exactly where one does.
* `prepareDirectory_adds`: what is added for the output.
* `Written`: all that a run with success changes.
-/

set_option autoImplicit false

namespace Understudy

open Files

/-! ## Steps that fail -/

namespace Attempt

variable {α β : Type} {a : Attempt α} {f : α → Attempt β} {e : Failure}

/-- A row of steps fails where one of them does. -/
theorem bind_eq_error : (a >>= f).outcome = .error e ↔
    a.outcome = .error e ∨ ∃ x, a.outcome = .ok x ∧ (f x).outcome = .error e := by
  show (a.andThen f).outcome = _ ↔ _
  unfold andThen
  cases a.outcome <;> simp

@[simp]
theorem outcome_ofExcept (r : Except Failure α) : (ofExcept r).outcome = r := rfl

@[simp]
theorem outcome_report (ns : List Notice) : (report ns).outcome = .ok () := rfl

@[simp]
theorem outcome_pure (x : α) : (pure x : Attempt α).outcome = .ok x := rfl

end Attempt

/-- The first step of generating that fails, and its failure. -/
inductive Fails (d : Disk) (formatter : Formatter) (o : Options) : Failure → Prop
  | reading {cause : OsError} (h : d.readText o.input = .error cause) :
    Fails d formatter o (.unreadable o.input cause)
  | parsing {source : String} {e : Failure} (hsource : d.readText o.input = .ok source)
    (h : parseSource (some o.input) source = .error e) : Fails d formatter o e
  | extraction {tree : Go.Node} {e : Failure} (htree : parseFile d o.input = .ok tree)
    (h : (extract tree).outcome = .error e) : Fails d formatter o e
  | package {tree : Go.Node} {m : Mock} {e : Failure} (htree : parseFile d o.input = .ok tree)
    (hmock : (extract tree).outcome = .ok m) (h : o.genPackage (Path.ofNames d.cwd) = .error e) :
    Fails d formatter o e
  | module {tree : Go.Node} {m : Mock} {package : String} {e : Failure}
    (htree : parseFile d o.input = .ok tree) (hmock : (extract tree).outcome = .ok m)
    (hpackage : o.genPackage (Path.ofNames d.cwd) = .ok package)
    (h : (modelPath d o.input).outcome = .error e) : Fails d formatter o e
  | template {m : Mock} {path : OsText} {cause : OsError}
    (hmock : (parseInput d o).outcome = .ok m) (hpath : o.template = some path)
    (h : d.readText path = .error cause) : Fails d formatter o (.unreadableTemplate path cause)
  | rendering {m : Mock} {template : String} {e : Failure}
    (hmock : (parseInput d o).outcome = .ok m)
    (htemplate : (loadTemplate d o.template).outcome = .ok template)
    (h : m.renderWith template = .error e) : Fails d formatter o e
  | formatting {m : Mock} {template text : String} {e : Failure}
    (hmock : (parseInput d o).outcome = .ok m)
    (htemplate : (loadTemplate d o.template).outcome = .ok template)
    (htext : m.renderWith template = .ok text) (hformat : o.format = true)
    (h : (formatter text.toUTF8).outcome = .error e) : Fails d formatter o e

section
variable {d : Disk} {formatter : Formatter} {o : Options} {e : Failure}

theorem parseFile_eq_error {path : OsText} : parseFile d path = .error e ↔
    (∃ cause, d.readText path = .error cause ∧ e = .unreadable path cause) ∨
      ∃ source, d.readText path = .ok source ∧ parseSource (some path) source = .error e := by
  unfold parseFile
  cases d.readText path <;> simp [eq_comm]

theorem loadTemplate_eq_error : (loadTemplate d o.template).outcome = .error e ↔
    ∃ path cause, o.template = some path ∧ d.readText path = .error cause ∧
      e = .unreadableTemplate path cause := by
  cases o.template with
  | none => simp [loadTemplate, Attempt.ok]
  | some path =>
    rw [loadTemplate, Attempt.bind_eq_error]
    cases hread : d.readText path <;> simp [Attempt.fail, hread, eq_comm]

theorem parseInput_eq_error : (parseInput d o).outcome = .error e ↔
    parseFile d o.input = .error e ∨ ∃ tree, parseFile d o.input = .ok tree ∧
      ((extract tree).outcome = .error e ∨ ∃ m, (extract tree).outcome = .ok m ∧
        (o.genPackage (Path.ofNames d.cwd) = .error e ∨ ∃ package, o.genPackage (Path.ofNames d.cwd) = .ok package ∧
          (modelPath d o.input).outcome = .error e)) := by
  simp [parseInput, Attempt.bind_eq_error]

theorem renderMock_eq_error {m : Mock} : (renderMock d formatter m o).outcome = .error e ↔
    (loadTemplate d o.template).outcome = .error e ∨
      ∃ template, (loadTemplate d o.template).outcome = .ok template ∧
        (m.renderWith template = .error e ∨ ∃ text, m.renderWith template = .ok text ∧
          o.format = true ∧ (formatter text.toUTF8).outcome = .error e) := by
  cases hf : o.format <;> simp [renderMock, Attempt.bind_eq_error, hf]

/-- **Generating fails exactly where one of its steps does.** -/
theorem generate_eq_error : (generate d formatter o).outcome = .error e ↔ Fails d formatter o e := by
  rw [generate, Attempt.bind_eq_error, parseInput_eq_error, parseFile_eq_error]
  simp only [renderMock_eq_error, loadTemplate_eq_error]
  constructor
  · rintro (((⟨cause, h, rfl⟩ | ⟨source, hs, h⟩) | ⟨tree, ht, h | ⟨m, hm, h | ⟨package, hp, h⟩⟩⟩) |
      ⟨m, hm, ⟨path, cause, hp, h, rfl⟩ | ⟨template, ht, h | ⟨text, hr, hf, h⟩⟩⟩)
    · exact .reading h
    · exact .parsing hs h
    · exact .extraction ht h
    · exact .package ht hm h
    · exact .module ht hm hp h
    · exact .template hm hp h
    · exact .rendering hm ht h
    · exact .formatting hm ht hr hf h
  · intro h
    cases h with
    | reading h => exact .inl (.inl (.inl ⟨_, h, rfl⟩))
    | parsing hs h => exact .inl (.inl (.inr ⟨_, hs, h⟩))
    | extraction ht h => exact .inl (.inr ⟨_, ht, .inl h⟩)
    | package ht hm h => exact .inl (.inr ⟨_, ht, .inr ⟨_, hm, .inl h⟩⟩)
    | module ht hm hp h => exact .inl (.inr ⟨_, ht, .inr ⟨_, hm, .inr ⟨_, hp, h⟩⟩⟩)
    | template hm hp h => exact .inr ⟨_, hm, .inl ⟨_, _, hp, h, rfl⟩⟩
    | rendering hm ht h => exact .inr ⟨_, hm, .inr ⟨_, ht, .inl h⟩⟩
    | formatting hm ht hr hf h => exact .inr ⟨_, hm, .inr ⟨_, ht, .inr ⟨_, hr, hf, h⟩⟩⟩

end

/-! ## The output -/

section
variable {d : Disk} {output : OsText} {bytes : ByteArray}

theorem outputDirectory?_eq_some {dir : OsText} (h : outputDirectory? output = some dir) :
    Path.HasParent output dir := by
  simp only [outputDirectory?, Option.filter_eq_some_iff] at h
  exact h.1

/-- **Only directories above the output are made for it**, whether they can all be made or not. -/
theorem prepareDirectory_adds : d.Adds (prepareDirectory d output).1 (Path.IsBelow output) := by
  unfold prepareDirectory
  split
  · exact .refl d
  · rename_i dir hdir
    have hparent := outputDirectory?_eq_some hdir
    have hadds : d.Adds (d.makeDirectories dir).1 (Path.IsBelow output) :=
      Disk.makeDirectories_adds (Disk.trimSlashes_parent hparent)
        fun q hq => Relation.TransGen.head' hparent hq
    split
    · rename_i d' hmade
      rwa [hmade] at hadds
    · rename_i d' e hmade
      rwa [hmade] at hadds

/-- Why an output is not written: its directory cannot be made, or then the file cannot be opened. -/
inductive OutputFails (d d' : Disk) (output : OsText) : FileFailure → Prop
  | directory {dir : OsText} {cause : OsError} (hdir : outputDirectory? output = some dir)
    (h : (d.makeDirectories dir).2 = .error cause) :
    OutputFails d d' output (.noDirectory dir cause)
  | file {cause : OsError} (h : d'.fileTarget output = .error cause) :
    OutputFails d d' output (.notWritten output cause)

theorem prepareDirectory_eq_error {d' : Disk} {e : FileFailure}
    (h : prepareDirectory d output = (d', .error e)) : OutputFails d d' output e := by
  unfold prepareDirectory at h
  split at h
  · cases h
  · rename_i dir hdir
    split at h
    · cases h
    · rename_i d'' cause hmade
      cases h
      exact .directory hdir (by rw [hmade])

/-- An output that cannot be written fails for a cause of its own, and only directories above it are
added. -/
theorem writeOutput_eq_error {d' : Disk} {e : FileFailure}
    (h : writeOutput d output bytes = (d', .error e)) :
    OutputFails d d' output e ∧ d.Adds d' (Path.IsBelow output) := by
  have hadds : d.Adds (prepareDirectory d output).1 (Path.IsBelow output) := prepareDirectory_adds
  unfold writeOutput at h
  split at h
  · rename_i made e' hfail
    cases h
    rw [hfail] at hadds
    exact ⟨prepareDirectory_eq_error hfail, hadds⟩
  · rename_i made hmade
    rw [hmade] at hadds
    split at h
    · rename_i cause hwrite
      cases h
      exact ⟨.file (Disk.writeFile_eq_error hwrite), hadds⟩
    · cases h

theorem exists_of_writeOutput {d' : Disk} (h : writeOutput d output bytes = (d', .ok ())) :
    ∃ made, prepareDirectory d output = (made, .ok ()) ∧ made.writeFile output bytes = .ok d' := by
  unfold writeOutput at h
  split at h
  · cases h
  · rename_i made hmade
    split at h
    · cases h
    · rename_i hwrite
      cases h
      exact ⟨made, hmade, hwrite⟩

/-- An output that is written is the file that its path leads to. -/
theorem writeOutput_eq_ok {d' : Disk} (h : writeOutput d output bytes = (d', .ok ())) :
    ∃ target executable, d.Written d' output bytes target executable := by
  have hadds : d.Adds (prepareDirectory d output).1 (Path.IsBelow output) := prepareDirectory_adds
  obtain ⟨made, hmade, hwrite⟩ := exists_of_writeOutput h
  rw [hmade] at hadds
  obtain ⟨target, executable, hwrote, hleads⟩ := Disk.writeFile_eq_ok hwrite
  exact ⟨target, executable, hadds.written hwrote hleads⟩

end

/-! ## Generating a file -/

/-- **Nothing is touched unless generating succeeds.** Where one of the steps of generating fails, the
disk stays as it is. Where they all succeed but the output cannot be written, only directories above
the output are added. Where it is written, the disk differs in nothing but such directories and the
file that the output path leads to, which has the generated bytes. -/
theorem generateFile_changes (d : Disk) (formatter : Formatter) (o : Options) :
    (∀ e, Fails d formatter o e → (generateFile d formatter o).outcome = .error (.failed e) ∧
      (generateFile d formatter o).disk = d) ∧
    ∀ bytes, (generate d formatter o).outcome = .ok bytes →
      match (generateFile d formatter o).outcome with
      | .error e => OutputFails d (generateFile d formatter o).disk o.output e ∧
        d.Adds (generateFile d formatter o).disk (Path.IsBelow o.output)
      | .ok () => ∃ target executable,
        d.Written (generateFile d formatter o).disk o.output bytes target executable := by
  refine ⟨fun e hfails => ?_, fun bytes hbytes => ?_⟩
  · have herror := generate_eq_error.2 hfails
    simp [generateFile, herror]
  · cases hwrite : writeOutput d o.output bytes with
    | mk d' result =>
      cases result with
      | error e => simpa [generateFile, hbytes, hwrite] using writeOutput_eq_error hwrite
      | ok u => simpa [generateFile, hbytes, hwrite] using writeOutput_eq_ok hwrite

/-- A disk with a source file and a template, and with a link on the way to the output. -/
def sampleDisk : Disk where
  entries := [
    (["app"], .directory),
    (["app", "go.mod"], .file "module example.com/app\n".toUTF8 false),
    (["app", "db.go"], .file "package db\n\ntype Querier interface {}\n".toUTF8 false),
    (["app", "mock.tmpl"], .file "package {{ GenPackage }}\n".toUTF8 false),
    (["app", "internal"], .directory),
    (["app", "gen"], .link "internal")]
  cwd := ["app"]

/-- Options with a directory in the output path that is not there. -/
def sampleOptions (input : OsText) : Options :=
  ⟨input, "gen/mocks/db.go", some "mock.tmpl", none, true⟩

theorem sample_reads : sampleDisk.readText "none.go" = .error .notFound := rfl

theorem sample_generates : (generate sampleDisk Formatter.identity (sampleOptions "db.go")).outcome =
    .ok "package mocks\n".toUTF8 := eq_ok_of_toOption (by decide +kernel)

theorem sample_succeeds :
    (generateFile sampleDisk Formatter.identity (sampleOptions "db.go")).outcome = .ok () :=
  eq_ok_of_toOption (by decide +kernel)

/-- A missing source file leaves the sample as it is, and the other one is written through the
link. -/
theorem sample_changes :
    (generateFile sampleDisk Formatter.identity (sampleOptions "none.go")).disk = sampleDisk ∧
    ∃ target executable,
      sampleDisk.Written (generateFile sampleDisk Formatter.identity (sampleOptions "db.go")).disk
        "gen/mocks/db.go" "package mocks\n".toUTF8 target executable := by
  have hmissing := (generateFile_changes sampleDisk Formatter.identity (sampleOptions "none.go")).1 _
    (.reading sample_reads)
  have hwritten := (generateFile_changes sampleDisk Formatter.identity (sampleOptions "db.go")).2 _
    sample_generates
  rw [sample_succeeds] at hwritten
  exact ⟨hmissing.2, hwritten⟩

end Understudy
