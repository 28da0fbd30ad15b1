import Mathlib.Control.Monad.Basic
import Understudy.Proofs.Files.Repeating
import Understudy.Proofs.Generate

/-!
# Generating a file once more

A run reads the source file, the template and the module files around the source, and then changes
the disk it has read from. As long as it does not write to one of those files, a second run reads the
same and leaves everything as it is. Directories that the first run makes may however complete the way
of a link: a module file that could not be reached before is then found by the second run.

* `generate_congr`: all that generating reads from the disk.
* `Written.modelPath_eq`: when the second run finds the same module.
* `writeOutput_again`: an output that is written again.
-/

set_option autoImplicit false

namespace Understudy

open Files

/-! ## What a run reads -/

section
variable {d d' : Disk} {formatter : Formatter} {o : Options}

theorem loadTemplate_congr
    (h : ∀ path, o.template = some path → d'.readText path = d.readText path) :
    loadTemplate d' o.template = loadTemplate d o.template := by
  cases htemplate : o.template with
  | none => rfl
  | some path => rw [loadTemplate, loadTemplate, h path htemplate]

/-- **What generating reads**: the source, the module of its package, the template and the name of
the current directory. -/
theorem generate_congr (hcwd : d'.cwd = d.cwd) (hinput : d'.readText o.input = d.readText o.input)
    (hmodel : modelPath d' o.input = modelPath d o.input)
    (htemplate : ∀ path, o.template = some path → d'.readText path = d.readText path) :
    generate d' formatter o = generate d formatter o := by
  have hparse : parseInput d' o = parseInput d o := by
    rw [parseInput, parseInput, parseFile, parseFile, hinput, hcwd, hmodel]
  have hrender : ∀ m, renderMock d' formatter m o = renderMock d formatter m o := by
    intro m
    rw [renderMock, renderMock, loadTemplate_congr htemplate]
  simp only [generate, hparse, hrender]

theorem exists_source {bytes : ByteArray} (h : (generate d formatter o).outcome = .ok bytes) :
    ∃ source, d.readText o.input = .ok source := by
  cases hread : d.readText o.input with
  | ok source => exact ⟨source, rfl⟩
  | error e =>
    have hfails : Fails d formatter o _ := .reading hread
    rw [generate_eq_error.2 hfails] at h
    cases h

theorem exists_template {bytes : ByteArray} (h : (generate d formatter o).outcome = .ok bytes)
    {path : OsText} (hpath : o.template = some path) : ∃ text, d.readText path = .ok text := by
  cases hread : d.readText path with
  | ok text => exact ⟨text, rfl⟩
  | error e =>
    have herror : ∃ e, (generate d formatter o).outcome = .error e := by
      cases hparse : (parseInput d o).outcome with
      | error e => exact ⟨e, Attempt.bind_eq_error.2 (.inl hparse)⟩
      | ok m => exact ⟨_, generate_eq_error.2 (.template hparse hpath hread)⟩
    obtain ⟨e, herror⟩ := herror
    rw [herror] at h
    cases h

/-! ## The module -/

/-- Two disks on which the same module files are found around a directory. -/
theorem packageIn_congr {dir : OsText}
    (hfile : ∀ a ∈ Path.ancestors dir,
      d'.isFile (Path.join a moduleFile) = d.isFile (Path.join a moduleFile))
    (hread : ∀ a ∈ Path.ancestors dir, d.isFile (Path.join a moduleFile) = true →
      d'.readText (Path.join a moduleFile) = d.readText (Path.join a moduleFile)) :
    packageIn d' dir = packageIn d dir := by
  have hroot : findModuleRoot d' dir = findModuleRoot d dir := by
    rw [findModuleRoot, findModuleRoot, ← List.head?_filter, ← List.head?_filter,
      List.filter_congr hfile]
  unfold packageIn
  rw [hroot]
  cases hfound : findModuleRoot d dir with
  | none => rfl
  | some root =>
    have hmem := List.mem_of_find?_eq_some hfound
    have hhas := List.find?_some (p := fun a => d.isFile (Path.join a moduleFile)) hfound
    simp only [declaredModule, hread root hmem hhas]

end

/-- The paths of module files around the source: in its real directory and in those above it. -/
def moduleFiles (d : Disk) (o : Options) : List OsText :=
  match (d.canonicalize o.input).toOption.bind Path.parent? with
  | none => []
  | some dir => (Path.ancestors dir).map (Path.join · moduleFile)

/-- The output is none of the files that a run reads. -/
structure OutputApart (d : Disk) (o : Options) : Prop where
  input : d.canonical o.input ≠ d.canonical o.output
  template : ∀ path ∈ o.template, d.canonical path ≠ d.canonical o.output
  module : ∀ file ∈ moduleFiles d o, d.canonical file ≠ d.canonical o.output

/-- No module file around the source that could not be reached on the first disk, for want of a
directory on the way of a link, is a file on the second one. -/
def NoModuleAppears (d d' : Disk) (o : Options) : Prop :=
  ∀ file ∈ moduleFiles d o, d.locate true file = .error .notFound → d'.isFile file = false

instance decidableOutputApart (d : Disk) (o : Options) : Decidable (OutputApart d o) :=
  decidable_of_iff (d.canonical o.input ≠ d.canonical o.output ∧
    (∀ path ∈ o.template, d.canonical path ≠ d.canonical o.output) ∧
    ∀ file ∈ moduleFiles d o, d.canonical file ≠ d.canonical o.output)
    ⟨fun ⟨hinput, htemplate, hmodule⟩ => ⟨hinput, htemplate, hmodule⟩,
      fun h => ⟨h.input, h.template, h.module⟩⟩

instance decidableNoModuleAppears (d d' : Disk) (o : Options) :
    Decidable (NoModuleAppears d d' o) :=
  inferInstanceAs (Decidable (∀ file ∈ moduleFiles d o, _ → _))

section
variable {d d' : Disk} {formatter : Formatter} {o : Options} {content : ByteArray}
  {target : List OsText} {executable : Bool}
  (h : d.Written d' o.output content target executable) (hapart : OutputApart d' o)
include h

/-- What is read from another file is the same before and after. -/
theorem Files.Disk.Written.readText_eq {path : OsText} (hfile : d.isFile path = true)
    (hne : d'.canonical path ≠ d'.canonical o.output) : d'.readText path = d.readText path := by
  obtain ⟨names, old, x, hlocate⟩ := Disk.isFile_iff.1 hfile
  rw [Disk.readText, Disk.readText, Disk.readBytes, Disk.readBytes, hlocate,
    h.locate_file hlocate hne]

include hapart

theorem Files.Disk.Written.canonicalize_input (hfile : d.isFile o.input = true) :
    d'.canonicalize o.input = d.canonicalize o.input := by
  obtain ⟨names, old, x, hlocate⟩ := Disk.isFile_iff.1 hfile
  rw [Disk.canonicalize, Disk.canonicalize, Disk.canonical, Disk.canonical, hlocate,
    h.locate_file hlocate hapart.input]

/-- **The module of the source** is the same before and after. -/
theorem Files.Disk.Written.modelPath_eq (hfile : d.isFile o.input = true)
    (hmodules : NoModuleAppears d d' o) : modelPath d' o.input = modelPath d o.input := by
  have hreal := h.canonicalize_input hapart hfile
  have hfiles : moduleFiles d' o = moduleFiles d o := by rw [moduleFiles, moduleFiles, hreal]
  have hmodule := hapart.module
  rw [hfiles] at hmodule
  unfold modelPath
  rw [hreal]
  cases hcanonical : d.canonicalize o.input with
  | error e => rfl
  | ok real =>
    cases hparent : Path.parent? real with
    | none => simp only [hparent]
    | some dir =>
      have hmem : ∀ a ∈ Path.ancestors dir, Path.join a moduleFile ∈ moduleFiles d o := by
        intro a ha
        simp only [moduleFiles, hcanonical, Except.toOption, Option.bind_some, hparent]
        exact List.mem_map_of_mem ha
      simp only [hparent]
      apply packageIn_congr
      · exact fun a ha => h.isFile_eq (hmodule _ (hmem a ha)) (hmodules _ (hmem a ha))
      · exact fun a ha hmoduleFile => h.readText_eq hmoduleFile (hmodule _ (hmem a ha))

/-- **A second run generates the same.** -/
theorem Files.Disk.Written.generate_eq {bytes : ByteArray}
    (hbytes : (generate d formatter o).outcome = .ok bytes) (hmodules : NoModuleAppears d d' o) :
    generate d' formatter o = generate d formatter o := by
  -- The first run has read its files, so each of them is a file on the first disk.
  obtain ⟨source, hsource⟩ := exists_source hbytes
  have hfile := Disk.isFile_of_readText hsource
  refine generate_congr h.cwd (h.readText_eq hfile hapart.input)
    (h.modelPath_eq hapart hfile hmodules) ?_
  intro path hpath
  obtain ⟨text, htext⟩ := exists_template hbytes hpath
  exact h.readText_eq (Disk.isFile_of_readText htext) (hapart.template path hpath)

end

/-! ## The output -/

theorem prepareDirectory_again {d made d' : Disk} {output : OsText}
    (h : prepareDirectory d output = (made, .ok ())) (hkeeps : made.Keeps d') :
    prepareDirectory d' output = (d', .ok ()) := by
  unfold prepareDirectory at h ⊢
  cases hdir : outputDirectory? output with
  | none => rfl
  | some dir =>
    have hne : dir ≠ [] := by
      simp only [outputDirectory?, Option.filter_eq_some_iff] at hdir
      simpa using hdir.2
    have htrim := Disk.trimSlashes_parent (outputDirectory?_eq_some hdir)
    rw [hdir] at h
    cases hmade : d.makeDirectories dir with
    | mk after result =>
      cases result with
      | error e => simp [hmade] at h
      | ok u =>
        simp only [hmade, Prod.mk.injEq, and_true] at h
        subst h
        have hthere := hkeeps.isDirectory (Disk.isDirectory_of_makeDirectories htrim hne hmade)
        simp only [Disk.makeDirectories_of_isDirectory htrim hne hthere]

/-- **An output that is written again** stays as it is. -/
theorem writeOutput_again {d d' : Disk} {output : OsText} {bytes : ByteArray}
    (h : writeOutput d output bytes = (d', .ok ())) :
    writeOutput d' output bytes = (d', .ok ()) := by
  obtain ⟨made, hmade, hwrite⟩ := exists_of_writeOutput h
  obtain ⟨target, executable, hwrote, _⟩ := Disk.writeFile_eq_ok hwrite
  rw [writeOutput, prepareDirectory_again hmade hwrote.keeps]
  simp only [Disk.writeFile_again hwrite]

theorem generateFile_eq_ok {d : Disk} {formatter : Formatter} {o : Options}
    (h : (generateFile d formatter o).outcome = .ok ()) :
    ∃ bytes d', (generate d formatter o).outcome = .ok bytes ∧
      writeOutput d o.output bytes = (d', .ok ()) ∧
      generateFile d formatter o = ⟨d', .generating o :: (generate d formatter o).notices ++
        [.wrote bytes.size o.output], .ok ()⟩ := by
  cases hbytes : (generate d formatter o).outcome with
  | error e => simp [generateFile, hbytes] at h
  | ok bytes =>
    cases hwrite : writeOutput d o.output bytes with
    | mk d' result =>
      cases result with
      | error e => simp [generateFile, hbytes, hwrite] at h
      | ok u => exact ⟨bytes, d', rfl, hwrite, by simp only [generateFile, hbytes, hwrite]⟩

/-- **Generating again changes nothing.** After a run with success whose output is none of the files
that it reads, and after which no module file around the source is found that a directory was missing
on the way to, a second run succeeds, reports the same and leaves the disk as it is. -/
theorem generateFile_again {d : Disk} {formatter : Formatter} {o : Options}
    (hok : (generateFile d formatter o).outcome = .ok ())
    (hapart : OutputApart (generateFile d formatter o).disk o)
    (hmodules : NoModuleAppears d (generateFile d formatter o).disk o) :
    generateFile (generateFile d formatter o).disk formatter o =
      ⟨(generateFile d formatter o).disk, (generateFile d formatter o).notices, .ok ()⟩ := by
  obtain ⟨bytes, d', hbytes, hwrite, hrun⟩ := generateFile_eq_ok hok
  obtain ⟨target, executable, hwritten⟩ := writeOutput_eq_ok hwrite
  rw [hrun] at hapart hmodules ⊢
  have hsame : generate d' formatter o = generate d formatter o :=
    hwritten.generate_eq hapart hbytes hmodules
  simp only [generateFile, hsame, hbytes, writeOutput_again hwrite]

/-- A disk with a module file that is a link through a directory that is not there. -/
def danglingDisk : Disk where
  entries := [
    (["app"], .directory),
    (["app", "go.mod"], .file "module example.com/app\n".toUTF8 false),
    (["app", "mock.tmpl"], .file "{{ ModelPath }}\n".toUTF8 false),
    (["app", "db"], .directory),
    (["app", "db", "querier.go"], .file "package db\n\ntype Querier interface {}\n".toUTF8
      false),
    (["app", "db", "other.mod"], .file "module example.com/other\n".toUTF8 false),
    (["app", "db", "go.mod"], .link "gen/../other.mod")]
  cwd := ["app"]

/-- Options with an output below the directory of the source. -/
def danglingOptions (output : OsText) (format : Bool) : Options :=
  ⟨"db/querier.go", output, some "mock.tmpl", none, format⟩

/-- A run with a formatter that can be seen in its output. -/
def danglingRun (o : Options) (d : Disk) : FileRun := generateFile d Formatter.upperCase o

/-- The link stays broken if the output is elsewhere, and a second run changes nothing. -/
theorem danglingDisk_again :
    (danglingRun (danglingOptions "db/mocks/mock.go" true) danglingDisk).disk.readText
      "db/mocks/mock.go" = .ok "EXAMPLE.COM/APP/DB\n" ∧
    (danglingRun (danglingOptions "db/mocks/mock.go" true)
      (danglingRun (danglingOptions "db/mocks/mock.go" true) danglingDisk).disk).disk =
    (danglingRun (danglingOptions "db/mocks/mock.go" true) danglingDisk).disk := by
  generalize ho : danglingOptions "db/mocks/mock.go" true = o
  have hrun : (danglingRun o danglingDisk).outcome = .ok () ∧
      OutputApart (danglingRun o danglingDisk).disk o ∧
      NoModuleAppears danglingDisk (danglingRun o danglingDisk).disk o ∧
      (danglingRun o danglingDisk).disk.readText "db/mocks/mock.go" =
        .ok "EXAMPLE.COM/APP/DB\n" := by
    subst ho
    decide +kernel
  obtain ⟨hok, hapart, hmodules, hread⟩ := hrun
  refine ⟨hread, ?_⟩
  unfold danglingRun at hok hapart hmodules ⊢
  rw [generateFile_again hok hapart hmodules]

/-- The output makes the directory on the way of the link, and a second run finds another module. -/
theorem danglingDisk_differs :
    (danglingRun (danglingOptions "db/gen/mock.go" false) danglingDisk).outcome = .ok () ∧
    OutputApart (danglingRun (danglingOptions "db/gen/mock.go" false) danglingDisk).disk
      (danglingOptions "db/gen/mock.go" false) ∧
    (danglingRun (danglingOptions "db/gen/mock.go" false)
      (danglingRun (danglingOptions "db/gen/mock.go" false) danglingDisk).disk).disk ≠
    (danglingRun (danglingOptions "db/gen/mock.go" false) danglingDisk).disk := by
  generalize ho : danglingOptions "db/gen/mock.go" false = o
  have hruns : (danglingRun o danglingDisk).outcome = .ok () ∧
      OutputApart (danglingRun o danglingDisk).disk o ∧
      (danglingRun o danglingDisk).disk.readText "db/gen/mock.go" =
        .ok "example.com/app/db\n" ∧
      (danglingRun o (danglingRun o danglingDisk).disk).disk.readText "db/gen/mock.go" =
        .ok "example.com/other\n" := by
    subst ho
    decide +kernel
  obtain ⟨hok, hapart, hfirst, hsecond⟩ := hruns
  refine ⟨hok, hapart, fun hsame => ?_⟩
  rw [hsame, hfirst] at hsecond
  simp at hsecond

end Understudy
