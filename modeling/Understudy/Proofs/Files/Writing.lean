import Mathlib.Logic.Relation
import Understudy.Proofs.Files.Components
import Understudy.Proofs.Files.Walking

/-!
# What making directories and writing a file change

Making a directory with its parents adds directories that the path or a path above it leads to, and
changes nothing else, whether it succeeds or not. Writing a file changes what stands under the one
name that its path leads to.

* `Path.IsBelow`: a path is below its parent and the parents of that.
* `Adds`: a disk with some directories added.
* `makeDirectories_adds`: all that making directories does.
* `Wrote`, `writeFile_eq_ok`: all that writing a file does.
* `Written`, `Adds.written`: what both together do.
-/

set_option autoImplicit false

namespace Understudy.Files

/-! ## Parents of a path -/

namespace Path

/-- The second path is the parent of the first one. -/
def HasParent (path parent : OsText) : Prop := parent? path = some parent

/-- The first path is below the second one. -/
def IsBelow (path above : OsText) : Prop := Relation.TransGen HasParent path above

end Path

namespace Disk

theorem trimSlashes_eq_self {path : OsText} (h : Path.endsInSlash path = false) :
    trimSlashes path = path := by
  rcases List.eq_nil_or_concat path with rfl | ⟨front, b, rfl⟩
  · rfl
  · have hb : b ≠ Path.slash := by simpa [Path.endsInSlash] using h
    simp [trimSlashes, hb]

/-- A parent has no slash at its end, unless it has nothing else. -/
theorem trimSlashes_parent {path parent : OsText} (h : Path.parent? path = some parent) :
    trimSlashes parent = parent ∨ trimSlashes parent = [] := by
  unfold Path.parent? at h
  cases hpieces : Path.dropIdle (Path.pieces path).reverse with
  | nil => simp [hpieces] at h
  | cons last rest =>
    cases hkept : Path.dropIdle rest with
    | nil =>
      right
      simp only [hpieces, hkept, Option.some.injEq] at h
      rw [← h]
      split <;> rfl
    | cons piece more =>
      left
      simp only [hpieces, hkept, List.reverse_cons, Option.some.injEq] at h
      obtain ⟨-, -, hrest, -⟩ := Path.dropIdle_eq_cons hpieces
      obtain ⟨hne, -, hmore, -⟩ := Path.dropIdle_eq_cons hkept
      have hmem : piece ∈ Path.pieces path :=
        List.mem_reverse.1 (hrest.subset (.tail _ (hmore.subset List.mem_cons_self)))
      -- The last byte is that of a piece, which has no slash.
      obtain ⟨front, hfront⟩ := Path.exists_ofPieces_concat more.reverse piece
      rw [← h, hfront]
      exact trimSlashes_eq_self (Path.endsInSlash_append (Path.slash_not_mem_piece hmem) hne front)

/-! ## Adding directories -/

/-- Under a name there is the same on both disks, or on the second one a new directory that one of
the given paths leads to. -/
def SameOrAdded (d d' : Disk) (paths : OsText → Prop) (names : List OsText) : Prop :=
  d'.get? names = d.get? names ∨
    (d.get? names = none ∧ d'.get? names = some .directory ∧
      ∃ path, paths path ∧ d'.locate true path = .ok (.entry names .directory))

/-- The second disk is the first one with directories added that the given paths lead to. -/
structure Adds (d d' : Disk) (paths : OsText → Prop) : Prop where
  cwd : d'.cwd = d.cwd
  get? : ∀ names, SameOrAdded d d' paths names

namespace Adds

variable {d d' d'' : Disk} {paths : OsText → Prop}

theorem refl (d : Disk) : Adds d d paths := ⟨rfl, fun _ => .inl rfl⟩

/-- What is there stays. -/
theorem kept (h : Adds d d' paths) {names : List OsText} {item : Item}
    (hget : d.get? names = some item) : d'.get? names = some item := by
  rcases h.get? names with heq | ⟨hnone, -⟩
  · rw [heq, hget]
  · rw [hnone] at hget
    cases hget

theorem keeps (h : Adds d d' paths) : Keeps d d' := ⟨h.cwd, h.kept, h.kept⟩

/-- Where no directory stands, nothing was added. -/
theorem get?_eq (h : Adds d d' paths) {names : List OsText}
    (hne : d'.get? names ≠ some .directory) : d.get? names = d'.get? names :=
  ((h.get? names).resolve_right fun hmade => hne hmade.2.1).symm

theorem trans (h : Adds d d' paths) (h' : Adds d' d'' paths) : Adds d d'' paths := by
  refine ⟨h'.cwd.trans h.cwd, fun names => ?_⟩
  rcases h.get? names with heq | ⟨hnone, hmade, path, hpath, hlocate⟩
  · rcases h'.get? names with heq' | ⟨hnone', hmade', hway⟩
    · exact .inl (heq'.trans heq)
    · exact .inr ⟨heq.symm.trans hnone', hmade', hway⟩
  · exact .inr ⟨hnone, h'.kept hmade, path, hpath,
      h'.keeps.locate id (.directory names) hlocate⟩

end Adds

/-- A directory that is made is added. -/
theorem adds_put {d : Disk} {paths : OsText → Prop} {last : Bool} {path : OsText}
    {dir : List OsText} {name : OsText} (hpath : paths path)
    (h : d.locate last path = .ok (.vacant dir name)) :
    Adds d (d.put (dir ++ [name]) .directory) paths := by
  have hnone : d.get? (dir ++ [name]) = none := locate_holds h
  have hself : (d.put (dir ++ [name]) .directory).get? (dir ++ [name]) = some .directory :=
    d.get?_put_self (by simp)
  have hother : ∀ {names : List OsText}, d.get? names ≠ none →
      (d.put (dir ++ [name]) .directory).get? names = d.get? names := fun hsome =>
    d.get?_put_of_ne fun heq => hsome (heq ▸ hnone)
  have hkeeps : Keeps d (d.put (dir ++ [name]) .directory) :=
    ⟨rfl, fun hget => by rw [hother (by simp [hget]), hget],
      fun hget => by rw [hother (by simp [hget]), hget]⟩
  refine ⟨rfl, fun names => ?_⟩
  by_cases heq : names = dir ++ [name]
  · subst heq
    exact .inr ⟨hnone, hself, path, hpath,
      hkeeps.locate (fun _ => rfl) (.vacant hself (by simp)) h⟩
  · exact .inl (d.get?_put_of_ne heq)

section
variable {d : Disk} {path : OsText} (htrim : trimSlashes path = path ∨ trimSlashes path = [])
include htrim

/-- A directory is made where the path leads to nothing. -/
theorem exists_of_makeDirectory {d' : Disk} (h : d.makeDirectory path = .ok d') :
    ∃ dir name, d.locate false path = .ok (.vacant dir name) ∧
      d' = d.put (dir ++ [name]) .directory := by
  rcases htrim with htrim | htrim
  · unfold makeDirectory at h
    simp only [htrim] at h
    split at h
    · cases h
    · split at h
      · cases h
      · cases h
      · rename_i dir name hlocate
        cases h
        exact ⟨dir, name, hlocate, rfl⟩
  · simp [makeDirectory, htrim] at h

variable {paths : OsText → Prop} (hpath : paths path)
include hpath

theorem makeDirectory_adds {d' : Disk} (h : d.makeDirectory path = .ok d') : Adds d d' paths := by
  obtain ⟨dir, name, hlocate, rfl⟩ := exists_of_makeDirectory htrim h
  exact adds_put hpath hlocate

theorem directoryMade_adds : Adds d (d.directoryMade path).1 paths := by
  unfold directoryMade
  split
  · rename_i d' hmade
    exact makeDirectory_adds htrim hpath hmade
  · exact .refl d

end

/-- **Making directories adds only directories that the path or one above it leads to**, whether all
of them can be made or not. -/
theorem makeDirectoriesUpTo_adds {paths : OsText → Prop} : ∀ (fuel : Nat) {d : Disk} {path : OsText},
    trimSlashes path = path ∨ trimSlashes path = [] →
    (∀ q, Relation.ReflTransGen Path.HasParent path q → paths q) →
    Adds d (makeDirectoriesUpTo fuel d path).1 paths
  | 0, d, path, htrim, hpaths => directoryMade_adds htrim (hpaths path .refl)
  | fuel + 1, d, path, htrim, hpaths => by
    have hpath : paths path := hpaths path .refl
    unfold makeDirectoriesUpTo
    split
    · exact .refl d
    · split
      · rename_i d' hmade
        exact makeDirectory_adds htrim hpath hmade
      · split
        · exact .refl d
        · rename_i parent hparent
          have hadds : Adds d (makeDirectoriesUpTo fuel d parent).1 paths :=
            makeDirectoriesUpTo_adds fuel (trimSlashes_parent hparent)
              fun q hq => hpaths q (.head hparent hq)
          split
          · rename_i d' e hfail
            rwa [hfail] at hadds
          · rename_i d' hmade
            rw [hmade] at hadds
            exact hadds.trans (directoryMade_adds htrim hpath)
      · exact .refl d

theorem makeDirectories_adds {d : Disk} {paths : OsText → Prop} {path : OsText}
    (htrim : trimSlashes path = path ∨ trimSlashes path = [])
    (hpaths : ∀ q, Relation.ReflTransGen Path.HasParent path q → paths q) :
    Adds d (d.makeDirectories path).1 paths :=
  makeDirectoriesUpTo_adds _ htrim hpaths

/-! ## Writing a file -/

/-- The second disk is the first one with the content of a file written, new or in place of an old
one. -/
structure Wrote (d d' : Disk) (names : List OsText) (content : ByteArray) (executable : Bool) :
    Prop where
  cwd : d'.cwd = d.cwd
  before : d.get? names = none ∨ ∃ old, d.get? names = some (.file old executable)
  now : d'.get? names = some (.file content executable)
  other : ∀ {other : List OsText}, other ≠ names → d'.get? other = d.get? other

section
variable {d d' : Disk} {path : OsText} {content : ByteArray} {names : List OsText}
  {executable : Bool}

/-- Directories and links stay where one name changes under which there was nothing or a file. -/
theorem Keeps.of_before (hcwd : d'.cwd = d.cwd)
    (hbefore : d.get? names = none ∨ ∃ old, d.get? names = some (.file old executable))
    (hother : ∀ {other : List OsText} {item : Item}, other ≠ names → d.get? other = some item →
      d'.get? other = some item) : Keeps d d' := by
  have hkept : ∀ {other : List OsText} {item : Item}, d.get? other = some item →
      (∀ old, item ≠ .file old executable) → d'.get? other = some item := by
    intro other item hget hfile
    refine hother ?_ hget
    rintro rfl
    rcases hbefore with hnone | ⟨old, hold⟩
    · simp [hnone] at hget
    · exact hfile old (Option.some.inj (hget.symm.trans hold))
  exact ⟨hcwd, fun hget => hkept hget (by simp), fun hget => hkept hget (by simp)⟩

theorem Wrote.keeps (h : Wrote d d' names content executable) : Keeps d d' :=
  .of_before h.cwd h.before fun hne hget => (h.other hne).trans hget

theorem wrote_put (hnames : names ≠ [])
    (hbefore : d.get? names = none ∨ ∃ old, d.get? names = some (.file old executable)) :
    Wrote d (d.put names (.file content executable)) names content executable :=
  ⟨rfl, hbefore, d.get?_put_self hnames, d.get?_put_of_ne⟩

/-- A path with a slash at its end is no file that can be written. -/
theorem trimSlashes_of_fileTarget (h : d.fileTarget path = .ok (names, executable)) :
    trimSlashes path = path := by
  refine Decidable.byContradiction fun hbare => ?_
  simp only [fileTarget, if_neg hbare] at h
  split at h
  · cases h
  · split at h <;> cases h

/-- A file is written where the path leads to nothing or to a file. -/
theorem fileTarget_eq_ok (h : d.fileTarget path = .ok (names, executable)) :
    (∃ dir name, d.locate true path = .ok (.vacant dir name) ∧ names = dir ++ [name] ∧
      executable = false) ∨
    ∃ old, d.locate true path = .ok (.entry names (.file old executable)) := by
  simp only [fileTarget, trimSlashes_of_fileTarget h, if_true] at h
  split at h
  · cases h
  · rename_i dir name hlocate
    cases h
    exact .inl ⟨dir, name, hlocate, rfl, rfl⟩
  · rename_i old _ hlocate
    cases h
    exact .inr ⟨old, hlocate⟩
  · cases h

theorem writeFile_eq_error {e : OsError} (h : d.writeFile path content = .error e) :
    d.fileTarget path = .error e := by
  unfold writeFile at h
  split at h
  · rename_i e' htarget
    cases h
    exact htarget
  · cases h

/-- A file that is written is where the path then leads. -/
theorem fileTarget_wrote (h : d.fileTarget path = .ok (names, executable)) (content : ByteArray) :
    Wrote d (d.put names (.file content executable)) names content executable ∧
      (d.put names (.file content executable)).locate true path =
        .ok (.entry names (.file content executable)) := by
  rcases fileTarget_eq_ok h with ⟨dir, name, hlocate, rfl, rfl⟩ | ⟨old, hlocate⟩
  · have hwrote : Wrote d _ (dir ++ [name]) content false :=
      wrote_put (by simp) (.inl (locate_holds hlocate))
    exact ⟨hwrote, hwrote.keeps.locate id (.vacant hwrote.now (by simp)) hlocate⟩
  · have hold : d.get? names = some (.file old executable) :=
      (locate_holds hlocate).resolve_left (by simp)
    have hnames : names ≠ [] := by
      rintro rfl
      simp at hold
    have hwrote : Wrote d _ names content executable := wrote_put hnames (.inr ⟨old, hold⟩)
    exact ⟨hwrote, hwrote.keeps.locate id (.file hwrote.now (by simp)) hlocate⟩

theorem exists_of_writeFile (h : d.writeFile path content = .ok d') :
    ∃ names executable, d.fileTarget path = .ok (names, executable) ∧
      d' = d.put names (.file content executable) := by
  unfold writeFile at h
  split at h
  · cases h
  · rename_i names executable htarget
    cases h
    exact ⟨names, executable, htarget, rfl⟩

/-- **Writing a file changes what stands under one name**, and the path leads there. -/
theorem writeFile_eq_ok (h : d.writeFile path content = .ok d') :
    ∃ names executable, Wrote d d' names content executable ∧
      d'.locate true path = .ok (.entry names (.file content executable)) := by
  obtain ⟨names, executable, htarget, rfl⟩ := exists_of_writeFile h
  exact ⟨names, executable, fileTarget_wrote htarget content⟩

end

/-! ## Adding directories and writing a file -/

/-- The second disk is the first one with a file written where a path leads, and with directories
added that paths above it lead to. -/
structure Written (d d' : Disk) (path : OsText) (content : ByteArray) (names : List OsText)
    (executable : Bool) : Prop where
  cwd : d'.cwd = d.cwd
  leads : d'.locate true path = .ok (.entry names (.file content executable))
  before : d.get? names = none ∨ ∃ old, d.get? names = some (.file old executable)
  other : ∀ other, other ≠ names → SameOrAdded d d' (Path.IsBelow path) other

theorem Adds.written {d made d' : Disk} {path : OsText} {content : ByteArray} {names : List OsText}
    {executable : Bool} (hadds : Adds d made (Path.IsBelow path))
    (hwrote : Wrote made d' names content executable)
    (hleads : d'.locate true path = .ok (.entry names (.file content executable))) :
    Written d d' path content names executable := by
  have hsame : d.get? names = made.get? names := hadds.get?_eq fun hdir => by
    rcases hwrote.before with hnone | ⟨old, hold⟩
    · simp [hnone] at hdir
    · simp [hold] at hdir
  refine ⟨hwrote.cwd.trans hadds.cwd, hleads, hsame ▸ hwrote.before, fun other hne => ?_⟩
  rcases hadds.get? other with heq | ⟨hnone, hmade, above, habove, hlocate⟩
  · exact .inl ((hwrote.other hne).trans heq)
  · exact .inr ⟨hnone, (hwrote.other hne).trans hmade, above, habove,
      hwrote.keeps.locate id (.directory other) hlocate⟩

end Disk

end Understudy.Files
