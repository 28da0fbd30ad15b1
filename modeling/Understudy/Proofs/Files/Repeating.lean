import Understudy.Proofs.Files.Writing

/-!
# Writing a file once more

A disk on which a file has been written takes the same file again without a change: the directories
above it are there, its path leads to it, and its content is the content. What other paths lead to is
the same before and after, unless it is the file, or unless a walk that stopped for want of a
directory now finds one.

* `makeDirectories_of_isDirectory`: directories that are there need not be made.
* `writeFile_again`: a file that is written again stays as it is.
* `Written.locate_file`: a path that led to another file leads there still.
* `Written.walk_before`: a walk that leads to another file led there before, or found a directory
  missing.
* `Written.isFile_eq`: whether a path leads to another file.
-/

set_option autoImplicit false

namespace Understudy.Files.Disk

/-! ## Directories that are there -/

section
variable {d d' : Disk} {path : OsText} {links : Nat} {dir steps : List OsText}

theorem isDirectory_iff : d.isDirectory path = true ↔
    ∃ names, d.locate true path = .ok (.entry names .directory) := by
  unfold isDirectory
  split
  · rename_i names hlocate
    exact iff_of_true rfl ⟨names, hlocate⟩
  · rename_i hother
    exact iff_of_false (by simp) fun ⟨names, hlocate⟩ => hother names hlocate

/-- A walk that ends at something ends at something also if it does not follow a link at its end. -/
theorem Leads.unfollowed {names : List OsText} {item : Item}
    (h : Leads d true links dir steps (.entry names item)) :
    ∃ names' item', Leads d false links dir steps (.entry names' item') := by
  generalize hp : Place.entry names item = p at h
  induction h with
  | arrived => exact ⟨_, _, .arrived⟩
  | here _ ih =>
    obtain ⟨names', item', hleads⟩ := ih hp
    exact ⟨names', item', .here hleads⟩
  | up _ ih =>
    obtain ⟨names', item', hleads⟩ := ih hp
    exact ⟨names', item', .up hleads⟩
  | enter hstep hget _ ih =>
    obtain ⟨names', item', hleads⟩ := ih hp
    exact ⟨names', item', .enter hstep hget hleads⟩
  | vacant => cases hp
  | file hstep hget => exact ⟨_, _, .file hstep hget⟩
  | link _ _ hlast => cases hlast
  | @follow _ _ rest _ _ _ hstep hget _ _ ih =>
    -- A link at the end is where the walk ends now; one before it is followed as it was.
    cases rest with
    | nil => exact ⟨_, _, .link hstep hget rfl⟩
    | cons step rest =>
      obtain ⟨names', item', hleads⟩ := ih hp
      exact ⟨names', item', .follow hstep hget (fun hrest => by cases hrest) hleads⟩

theorem makeDirectory_of_isDirectory (htrim : trimSlashes path = path ∨ trimSlashes path = [])
    (hne : path ≠ []) (h : d.isDirectory path = true) : d.makeDirectory path = .error .exists := by
  rcases htrim with htrim | htrim
  · obtain ⟨names, hlocate⟩ := isDirectory_iff.1 h
    obtain ⟨hpath, hleads⟩ := locate_eq_ok.1 hlocate
    obtain ⟨names', item', hleads'⟩ := hleads.unfollowed
    have hlocate' := locate_eq_ok.2 ⟨hpath, hleads'⟩
    simp only [makeDirectory, htrim, if_neg hne, hlocate']
  · simp [makeDirectory, htrim, hne]

/-- **Directories that are there** need not be made. -/
theorem makeDirectories_of_isDirectory (htrim : trimSlashes path = path ∨ trimSlashes path = [])
    (hne : path ≠ []) (h : d.isDirectory path = true) : d.makeDirectories path = (d, .ok ()) := by
  have hmade := makeDirectory_of_isDirectory htrim hne h
  unfold makeDirectories
  cases (Path.pieces path).length with
  | zero => simp [makeDirectoriesUpTo, directoryMade, hmade, h]
  | succ fuel => simp [makeDirectoriesUpTo, hne, hmade, h]

theorem isDirectory_of_makeDirectory (htrim : trimSlashes path = path ∨ trimSlashes path = [])
    (h : d.makeDirectory path = .ok d') : d'.isDirectory path = true := by
  obtain ⟨dir, name, hlocate, rfl⟩ := exists_of_makeDirectory htrim h
  have hadds : Adds d (d.put (dir ++ [name]) .directory) (· = path) := adds_put rfl hlocate
  have hnone : d.get? (dir ++ [name]) = none := locate_holds hlocate
  rcases hadds.get? (dir ++ [name]) with hsame | ⟨_, _, _, rfl, hlocate'⟩
  · rw [d.get?_put_self (by simp), hnone] at hsame
    cases hsame
  · exact isDirectory_iff.2 ⟨_, hlocate'⟩

theorem isDirectory_of_directoryMade (htrim : trimSlashes path = path ∨ trimSlashes path = [])
    (h : d.directoryMade path = (d', .ok ())) : d'.isDirectory path = true := by
  unfold directoryMade at h
  split at h
  · rename_i hmade
    cases h
    exact isDirectory_of_makeDirectory htrim hmade
  · rename_i hfail
    cases hdir : d.isDirectory path with
    | true => simp_all
    | false => simp [hdir] at h

/-- **A directory that was made is there**, and so are those that were there already. -/
theorem isDirectory_of_makeDirectories (htrim : trimSlashes path = path ∨ trimSlashes path = [])
    (hne : path ≠ []) (h : d.makeDirectories path = (d', .ok ())) : d'.isDirectory path = true := by
  unfold makeDirectories at h
  cases hfuel : (Path.pieces path).length with
  | zero =>
    rw [hfuel] at h
    exact isDirectory_of_directoryMade htrim h
  | succ fuel =>
    rw [hfuel, makeDirectoriesUpTo, if_neg hne] at h
    split at h
    · rename_i hmade
      cases h
      exact isDirectory_of_makeDirectory htrim hmade
    · split at h
      · cases h
      · split at h
        · cases h
        · exact isDirectory_of_directoryMade htrim h
    · cases hdir : d.isDirectory path with
      | true => simp_all
      | false => simp [hdir] at h

theorem Keeps.isDirectory (hkeeps : Keeps d d') (h : d.isDirectory path = true) :
    d'.isDirectory path = true := by
  obtain ⟨names, hlocate⟩ := isDirectory_iff.1 h
  exact isDirectory_iff.2 ⟨names, hkeeps.locate id (.directory names) hlocate⟩

end

/-! ## The file -/

section
variable {d d' : Disk} {path : OsText} {content : ByteArray}

theorem put_put (d : Disk) (names : List OsText) (item : Item) :
    (d.put names item).put names item = d.put names item := by
  simp [put, List.filter_filter]

/-- **A file that is written again** stays as it is. -/
theorem writeFile_again (h : d.writeFile path content = .ok d') :
    d'.writeFile path content = .ok d' := by
  obtain ⟨names, executable, htarget, rfl⟩ := exists_of_writeFile h
  obtain ⟨_, hlocate⟩ := fileTarget_wrote htarget content
  have htarget' : (d.put names (.file content executable)).fileTarget path =
      .ok (names, executable) := by
    simp only [fileTarget, trimSlashes_of_fileTarget htarget, if_true, hlocate]
  rw [writeFile, htarget']
  simp only [put_put]

end

/-! ## Other files -/

/-- What is read as a text is a file. -/
theorem isFile_of_readText {d : Disk} {path : OsText} {text : String}
    (h : d.readText path = .ok text) : d.isFile path = true := by
  unfold readText readBytes at h
  cases hlocate : d.locate true path with
  | error e => simp [hlocate, itemAt, bytesOf, textOf] at h
  | ok place =>
    rcases place with ⟨names, item⟩ | ⟨dir, name⟩
    · cases item with
      | file content executable => exact isFile_iff.2 ⟨names, content, executable, hlocate⟩
      | directory => simp [hlocate, itemAt, bytesOf, textOf] at h
      | link target => simp [hlocate, itemAt, bytesOf, textOf] at h
    · simp [hlocate, itemAt, bytesOf, textOf] at h

namespace Written

variable {d d' : Disk} {path : OsText} {content : ByteArray} {target : List OsText}
  {executable : Bool} (h : Written d d' path content target executable)
include h

theorem get?_target : d'.get? target = some (.file content executable) :=
  (locate_holds h.leads).resolve_left (by simp)

theorem keeps : Keeps d d' := by
  refine .of_before h.cwd h.before fun {names _} hne hget => ?_
  rcases h.other names hne with hsame | ⟨hnone, -⟩
  · rw [hsame, hget]
  · simp [hnone] at hget

theorem ne_target {names : List OsText} {item : Item} (hget : d'.get? names = some item)
    (hitem : ∀ bytes x, item ≠ .file bytes x) : names ≠ target := by
  rintro rfl
  rw [h.get?_target, Option.some.injEq] at hget
  exact hitem _ _ hget.symm

theorem get?_file {names : List OsText} {old : ByteArray} {x : Bool} (hne : names ≠ target) :
    d'.get? names = some (.file old x) ↔ d.get? names = some (.file old x) := by
  rcases h.other names hne with hsame | ⟨hnone, hmade, _⟩
  · rw [hsame]
  · simp [hnone, hmade]

/-- A walk that led to a file leads there still, or to the file that was written. -/
theorem leads_file {links : Nat} {dir steps names : List OsText} {old : ByteArray} {x : Bool}
    (hleads : Leads d true links dir steps (.entry names (.file old x))) :
    Leads d' true links dir steps (.entry names (.file old x)) ∨
      Leads d' true links dir steps (.entry target (.file content executable)) := by
  by_cases hne : names = target
  · subst hne
    exact .inr (h.keeps.leads id (.file h.get?_target (by simp)) hleads)
  · have hget : d.get? names = some (.file old x) := hleads.holds.resolve_left (by simp)
    exact .inl (h.keeps.leads id (.file ((h.get?_file hne).2 hget) (by simp)) hleads)

/-- **A path that led to another file** leads there still. -/
theorem locate_file {other : OsText} {names : List OsText} {old : ByteArray} {x : Bool}
    (hlocate : d.locate true other = .ok (.entry names (.file old x)))
    (hapart : d'.canonical other ≠ d'.canonical path) :
    d'.locate true other = .ok (.entry names (.file old x)) := by
  obtain ⟨hpath, hleads⟩ := locate_eq_ok.1 hlocate
  rw [← h.cwd] at hleads
  rcases h.leads_file hleads with hleads' | hleads'
  · exact locate_eq_ok.2 ⟨hpath, hleads'⟩
  · have hlocate' := locate_eq_ok.2 ⟨hpath, hleads'⟩
    exact absurd (by simp only [canonical, hlocate', h.leads]) hapart

/-- **A walk that leads to another file** led there before, or a directory was missing on its way. -/
theorem walk_before {links : Nat} {dir steps names : List OsText} {old : ByteArray} {x : Bool}
    (hne : names ≠ target) (hleads : Leads d' true links dir steps (.entry names (.file old x))) :
    d.walk true links dir steps = .ok (.entry names (.file old x)) ∨
      d.walk true links dir steps = .error .notFound := by
  generalize hp : Place.entry names (.file old x) = p at hleads
  induction hleads with
  | arrived => cases hp
  | @here links _ _ _ _ ih => cases links <;> simpa [walk, walkSteps] using ih hp
  | @up links _ _ _ _ ih => cases links <;> simpa [walk, walkSteps] using ih hp
  | @enter links dir rest step _ hstep hget hrest ih =>
    have hshort := Nat.not_lt.2 hstep.short
    rcases h.other _ (h.ne_target hget (by simp)) with hsame | ⟨hnone, -⟩
    · rw [hget] at hsame
      cases links <;>
        simpa [walk, walkSteps, hstep.notHere, hstep.notUp, hshort, ← hsame] using ih hp
    · -- The directory is new. The walk went on from it, so it stopped there before.
      right
      have hmore : rest ≠ [] := by
        rintro rfl
        subst hp
        cases hrest
      cases links <;> simp [walk, walkSteps, hstep.notHere, hstep.notUp, hshort, hnone, hmore]
  | vacant => cases hp
  | file hstep hget =>
    cases hp
    exact .inl (walk_of_leads (.file hstep ((h.get?_file hne).1 hget)))
  | link _ _ hlast => cases hlast
  | @follow links dir rest step link _ hstep hget hlast _ ih =>
    have hshort := Nat.not_lt.2 hstep.short
    -- Only directories and the output are made, so the link was there.
    have hsame : d.get? (dir ++ [step]) = some (.link link) := by
      rcases h.other _ (h.ne_target hget (by simp)) with hsame | ⟨_, hmade, _⟩
      · rw [← hsame, hget]
      · rw [hmade] at hget
        cases hget
    simpa [walk, walkSteps, hstep.notHere, hstep.notUp, hshort, hsame] using ih hp

/-- A path that leads to another file led there before, or a directory was missing on its way. -/
theorem locate_before {other : OsText} {names : List OsText} {old : ByteArray} {x : Bool}
    (hlocate : d'.locate true other = .ok (.entry names (.file old x)))
    (hapart : d'.canonical other ≠ d'.canonical path) :
    d.locate true other = .ok (.entry names (.file old x)) ∨
      d.locate true other = .error .notFound := by
  have hne : names ≠ target := by
    rintro rfl
    exact hapart (by simp only [canonical, itemAt, hlocate, h.leads])
  obtain ⟨⟨hempty, hnul, hshort⟩, hleads⟩ := locate_eq_ok.1 hlocate
  have hwalk := h.walk_before hne hleads
  rw [h.cwd] at hwalk
  simpa only [locate, if_neg hempty, hnul, Bool.false_eq_true, if_false,
    if_neg (Nat.not_lt.2 hshort)] using hwalk

/-- **Whether a path leads to another file** is the same before and after, if no directory that was
missing on its way makes it one. -/
theorem isFile_eq {other : OsText} (hapart : d'.canonical other ≠ d'.canonical path)
    (hmissing : d.locate true other = .error .notFound → d'.isFile other = false) :
    d'.isFile other = d.isFile other := by
  rw [Bool.eq_iff_iff]
  constructor
  · intro hafter
    obtain ⟨names, old, x, hlocate⟩ := isFile_iff.1 hafter
    rcases h.locate_before hlocate hapart with hbefore | herror
    · exact isFile_iff.2 ⟨names, old, x, hbefore⟩
    · rw [hmissing herror] at hafter
      cases hafter
  · intro hbefore
    obtain ⟨names, old, x, hlocate⟩ := isFile_iff.1 hbefore
    exact isFile_iff.2 ⟨names, old, x, h.locate_file hlocate hapart⟩

end Written

end Understudy.Files.Disk
