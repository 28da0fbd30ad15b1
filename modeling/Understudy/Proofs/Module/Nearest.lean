import Understudy.Module.Location
import Understudy.Proofs.Files.Components
import Understudy.Proofs.Files.RealNames

/-!
# The nearest module of a package

The module of a package is found by going up from its real directory to the root. The first
directory that holds a module file is the longest one above the package that does, and only its file
counts. A module file that cannot be walked to, because its path is too long or leads over too many
links, is passed over.

* `IsModuleRoot`: the nearest directory with a module file.
* `findModuleRoot_eq_some_iff`, `findModuleRoot_eq_none_iff`: when it is found.
* `Located`: what the import path of a package is, by its real directory.
* `modelPath_located`: it is what the search gives.
-/

set_option autoImplicit false

namespace Understudy

open Files Disk Path

/-! ## Directories above -/

/-- A real directory and those above it, from the directory upwards. -/
def enclosing (dir : List OsText) : List (List OsText) :=
  (List.range (dir.length + 1)).reverse.map dir.take

section
variable {dir other : List OsText} {name : OsText}

theorem enclosing_concat (dir : List OsText) (name : OsText) :
    enclosing (dir ++ [name]) = (dir ++ [name]) :: enclosing dir := by
  have hlength : (dir ++ [name]).length = dir.length + 1 := by simp
  rw [enclosing, hlength, List.range_succ, List.reverse_concat, List.map_cons, enclosing]
  congr 1
  · rw [← hlength, List.take_length]
  · apply List.map_congr_left
    intro n hn
    rw [List.mem_reverse, List.mem_range] at hn
    exact List.take_append_of_le_length (by omega)

theorem mem_enclosing : other ∈ enclosing dir ↔ other <+: dir := by
  rw [enclosing, List.mem_map]
  constructor
  · rintro ⟨n, -, rfl⟩
    exact List.take_prefix n dir
  · intro h
    refine ⟨other.length, ?_, (List.prefix_iff_eq_take.1 h).symm⟩
    rw [List.mem_reverse, List.mem_range]
    have hle := h.length_le
    omega

/-- A directory and those above it are its path and the parents of that, up to the root. -/
theorem ancestorsUpTo_ofNames (h : ∀ n ∈ dir, IsComponent n) {fuel : Nat}
    (hfuel : dir.length ≤ fuel) :
    ancestorsUpTo fuel (ofNames dir) = (enclosing dir).map ofNames := by
  induction dir using List.reverseRecOn generalizing fuel with
  | nil =>
    cases fuel with
    | zero => rfl
    | succ fuel => rw [ancestorsUpTo, parent?_root]; rfl
  | append_singleton dir name ih =>
    obtain ⟨fuel, rfl⟩ : ∃ f, fuel = f + 1 := ⟨fuel - 1, by simp at hfuel; omega⟩
    have hdir : ∀ n ∈ dir, IsComponent n := fun n hn => h n (by simp [hn])
    have hparent := parent?_ofNames hdir (h name (by simp))
    simp only [ancestorsUpTo, hparent, enclosing_concat, List.map_cons]
    rw [ih hdir (by simp at hfuel; omega)]

theorem ancestors_ofNames (h : ∀ n ∈ dir, IsComponent n) :
    ancestors (ofNames dir) = (enclosing dir).map ofNames := by
  apply ancestorsUpTo_ofNames h
  by_cases hne : dir = []
  · simp [hne]
  · rw [pieces_ofNames hne fun n hn => (h n hn).noSlash, List.length_cons]
    omega

end

/-! ## The nearest module file -/

/-- The entry of the directory that is named as module files are leads to a file, over links if need
be, and can be walked to by its path. -/
def HoldsModule (d : Disk) (dir : List OsText) : Prop :=
  FitsPath (dir ++ [moduleFile]) ∧ ∃ names content executable,
    Leads d true linkLimit dir [moduleFile] (.entry names (.file content executable))

/-- The directory is the longest one on the way from the root that holds a module file. -/
structure IsModuleRoot (d : Disk) (dir root : List OsText) : Prop where
  above : root <+: dir
  holds : HoldsModule d root
  nearest : ∀ other, other <+: dir → HoldsModule d other → other.length ≤ root.length

theorem isEntryName_moduleFile : IsEntryName moduleFile where
  component := ⟨by decide, by decide⟩
  step := ⟨by decide, by decide, by decide⟩
  noNul := by decide

section
variable {d : Disk} {dir root : List OsText} {name path : OsText}

/-- There is only one nearest directory. -/
theorem IsModuleRoot.unique {root' : List OsText} (h : IsModuleRoot d dir root)
    (h' : IsModuleRoot d dir root') : root = root' := by
  have hle := h'.nearest root h.above h.holds
  have hge := h.nearest root' h'.above h'.holds
  exact (List.prefix_of_prefix_length_le h.above h'.above hle).eq_of_length (by omega)

/-- A directory without a module file of its own has the nearest one of the directory above. -/
theorem IsModuleRoot.concat (h : IsModuleRoot d dir root)
    (hmodule : ¬HoldsModule d (dir ++ [name])) : IsModuleRoot d (dir ++ [name]) root := by
  refine ⟨h.above.trans (List.prefix_append dir [name]), h.holds, fun other hother hholds => ?_⟩
  rcases List.prefix_concat_iff.1 hother with rfl | hother
  · exact absurd hholds hmodule
  · exact h.nearest other hother hholds

variable (hd : IsTree d) (hdir : d.get? dir = some .directory)
include hd hdir

theorem isComponent_of_directory : ∀ n ∈ dir, IsComponent n :=
  fun n hn => (hd.isEntryName hdir n hn).component

theorem join_moduleFile :
    join (ofNames dir) moduleFile = ofNames (dir ++ [moduleFile]) :=
  join_ofNames (isComponent_of_directory hd hdir) isEntryName_moduleFile.component

/-- **A directory holds a module file** if and only if the path of such a file in it leads to one. -/
theorem isFile_moduleFile_iff :
    d.isFile (join (ofNames dir) moduleFile) = true ↔ HoldsModule d dir := by
  simp only [join_moduleFile hd hdir, isFile_iff, hd.locate_ofNames hdir isEntryName_moduleFile,
    HoldsModule, ← walk_eq_ok]
  by_cases hfits : FitsPath (dir ++ [moduleFile])
  · simp [hfits]
  · simp [hfits]

/-- One step of the search. -/
theorem findModuleRoot_concat (hname : d.get? (dir ++ [name]) = some .directory) :
    findModuleRoot d (ofNames (dir ++ [name])) =
      if d.isFile (join (ofNames (dir ++ [name])) moduleFile) then some (ofNames (dir ++ [name]))
      else findModuleRoot d (ofNames dir) := by
  rw [findModuleRoot, ancestors_ofNames (isComponent_of_directory hd hname), enclosing_concat,
    List.map_cons, List.find?_cons, findModuleRoot,
    ancestors_ofNames (isComponent_of_directory hd hdir)]
  cases d.isFile (join (ofNames (dir ++ [name])) moduleFile) <;> rfl

omit hdir

theorem findModuleRoot_of_not_holds (hname : d.get? (dir ++ [name]) = some .directory)
    (h : ¬HoldsModule d (dir ++ [name])) :
    findModuleRoot d (ofNames (dir ++ [name])) = findModuleRoot d (ofNames dir) := by
  rw [findModuleRoot_concat hd (hd.get?_parent hname) hname,
    if_neg (mt (isFile_moduleFile_iff hd hname).1 h)]

/-- The directory that the search stops at is the nearest one. -/
theorem exists_isModuleRoot (hdir : d.get? dir = some .directory)
    (h : findModuleRoot d (ofNames dir) = some path) :
    ∃ root, IsModuleRoot d dir root ∧ ofNames root = path := by
  induction dir using List.reverseRecOn with
  | nil =>
    have hmem := List.mem_of_find?_eq_some h
    obtain rfl : path = ofNames [] := List.mem_singleton.1 hmem
    have hfile := List.find?_some (p := fun a => d.isFile (join a moduleFile)) h
    exact ⟨[], ⟨List.prefix_rfl, (isFile_moduleFile_iff hd hdir).1 hfile,
      fun other hother _ => by simp [List.prefix_nil.1 hother]⟩, rfl⟩
  | append_singleton dir name ih =>
    by_cases hholds : HoldsModule d (dir ++ [name])
    · rw [findModuleRoot_concat hd (hd.get?_parent hdir) hdir,
        if_pos ((isFile_moduleFile_iff hd hdir).2 hholds)] at h
      cases h
      exact ⟨_, ⟨List.prefix_rfl, hholds, fun other hother _ => hother.length_le⟩, rfl⟩
    · rw [findModuleRoot_of_not_holds hd hdir hholds] at h
      obtain ⟨root, hroot, rfl⟩ := ih (hd.get?_parent hdir) h
      exact ⟨root, hroot.concat hholds, rfl⟩

include hdir

/-- **Nothing is found** if and only if no directory on the way holds a module file. -/
theorem findModuleRoot_eq_none_iff : findModuleRoot d (ofNames dir) = none ↔
    ∀ root, root <+: dir → ¬HoldsModule d root := by
  have hway : ∀ root, root <+: dir →
      (d.isFile (join (ofNames root) moduleFile) = true ↔ HoldsModule d root) := by
    rintro root ⟨below, rfl⟩
    exact isFile_moduleFile_iff hd (hd.get?_front hdir)
  rw [findModuleRoot, List.find?_eq_none, ancestors_ofNames (isComponent_of_directory hd hdir),
    List.forall_mem_map]
  simp only [mem_enclosing]
  exact forall₂_congr fun root hroot => not_congr (hway root hroot)

/-- **What is found** is the nearest directory. -/
theorem findModuleRoot_eq_some_iff : findModuleRoot d (ofNames dir) = some path ↔
    ∃ root, IsModuleRoot d dir root ∧ ofNames root = path := by
  refine ⟨exists_isModuleRoot hd hdir, ?_⟩
  rintro ⟨root, hroot, rfl⟩
  cases hfound : findModuleRoot d (ofNames dir) with
  | none =>
    exact absurd hroot.holds ((findModuleRoot_eq_none_iff hd hdir).1 hfound root hroot.above)
  | some found =>
    obtain ⟨root', hroot', rfl⟩ := exists_isModuleRoot hd hdir hfound
    rw [hroot'.unique hroot]

end

/-! ## The path of the package -/

/-- What the import path of the package in a real directory is. Only the nearest module file counts,
and it has to be readable and to declare a module. -/
inductive Located (d : Disk) (dir : List OsText) : Except Failure String → Prop
  | path {root below : List OsText} {text module : String} (hroot : IsModuleRoot d dir root)
    (hbelow : dir = root ++ below) (hread : d.readText (ofNames (root ++ [moduleFile])) = .ok text)
    (hmodule : GoMod.modulePath text = .ok module) :
    Located d dir (.ok (module ++ String.join (below.map ("/" ++ ·.lossy))))
  | unreadable {root : List OsText} {cause : OsError} (hroot : IsModuleRoot d dir root)
    (hread : d.readText (ofNames (root ++ [moduleFile])) = .error cause) :
    Located d dir (.error (.unreadable (ofNames (root ++ [moduleFile])) cause))
  | badModule {root : List OsText} {text : String} {cause : GoMod.GoModError}
    (hroot : IsModuleRoot d dir root)
    (hread : d.readText (ofNames (root ++ [moduleFile])) = .ok text)
    (hmodule : GoMod.modulePath text = .error cause) :
    Located d dir (.error (.module (.badModule (some (ofNames (root ++ [moduleFile]))) cause)))
  | noModule (hnone : ∀ root, root <+: dir → ¬HoldsModule d root) :
    Located d dir (.error (.module (.noModule (ofNames dir))))

section
variable {d : Disk} {dir root below : List OsText} {name path : OsText}

theorem packagePath_ofPieces (h : ∀ n ∈ below, n ≠ dotDot) (module : String) :
    packagePath module (below.map .ofPiece) =
      module ++ String.join (below.map ("/" ++ ·.lossy)) := by
  induction below generalizing module with
  | nil => simp [packagePath]
  | cons name names ih =>
    rw [List.forall_mem_cons] at h
    have hname : (Component.ofPiece name).name? = some name := by
      rw [Component.name?_ofPiece, if_neg h.1]
    have hstep : packagePath module ((name :: names).map .ofPiece) =
        packagePath (module ++ "/" ++ name.lossy) (names.map .ofPiece) := by
      simp only [packagePath, List.map_cons, List.filterMap_cons, hname, List.foldl_cons]
    rw [hstep, ih h.2, List.map_cons, String.join_cons]
    simp only [String.append_assoc]

theorem packageIn_of_none (h : findModuleRoot d path = none) :
    (packageIn d path).outcome = .error (.module (.noModule path)) := by
  rw [packageIn, h]
  rfl

theorem packageIn_of_some {root : OsText} {below : List Component}
    (h : findModuleRoot d path = some root) (hbelow : stripPrefix? root path = some below) :
    (packageIn d path).outcome =
      (declaredModule d (join root moduleFile)).map (packagePath · below) := by
  have hdeclared : (packageIn d path).outcome = ((do
      Attempt.report [.moduleRoot root]
      let module ← Attempt.ofExcept (declaredModule d (join root moduleFile))
      return packagePath module below) : Attempt String).outcome := by
    rw [packageIn, h]
    simp only [hbelow]
  rw [hdeclared]
  cases declaredModule d (join root moduleFile) <;> rfl

/-- **What is found lies above**: the names from there down can be told. -/
theorem stripPrefix?_of_findModuleRoot {root : OsText} (h : findModuleRoot d path = some root) :
    ∃ below, stripPrefix? root path = some below := by
  obtain ⟨below, -, hbelow⟩ := exists_stripPrefix? (List.mem_of_find?_eq_some h)
  exact ⟨below, hbelow⟩

variable (hd : IsTree d) (hdir : d.get? dir = some .directory)
include hd hdir

/-- The import path of the package in a real directory, by that of the module. -/
theorem IsModuleRoot.packageIn_eq (h : IsModuleRoot d dir root) (hbelow : dir = root ++ below) :
    (packageIn d (ofNames dir)).outcome =
      (declaredModule d (ofNames (root ++ [moduleFile]))).map
        (· ++ String.join (below.map ("/" ++ ·.lossy))) := by
  subst hbelow
  have hfound := (findModuleRoot_eq_some_iff hd hdir).2 ⟨root, h, rfl⟩
  have hstrip := stripPrefix?_ofNames (isComponent_of_directory hd hdir)
  have hnames : ∀ n ∈ below, n ≠ dotDot := fun n hn =>
    (hd.isEntryName hdir n (List.mem_append_right root hn)).step.notUp
  rw [packageIn_of_some hfound hstrip, join_moduleFile hd (hd.get?_front hdir)]
  simp only [packagePath_ofPieces hnames]

theorem packageIn_located : Located d dir (packageIn d (ofNames dir)).outcome := by
  cases hfound : findModuleRoot d (ofNames dir) with
  | none =>
    rw [packageIn_of_none hfound]
    exact .noModule ((findModuleRoot_eq_none_iff hd hdir).1 hfound)
  | some path =>
    obtain ⟨root, hroot, rfl⟩ := (findModuleRoot_eq_some_iff hd hdir).1 hfound
    obtain ⟨below, hbelow⟩ := hroot.above
    rw [hroot.packageIn_eq hd hdir hbelow.symm, declaredModule]
    cases htext : d.readText (ofNames (root ++ [moduleFile])) with
    | error e => exact .unreadable hroot htext
    | ok text =>
      cases hmodule : GoMod.modulePath text with
      | error e => simpa [hmodule] using .badModule hroot htext hmodule
      | ok path => simpa [hmodule, Except.map] using .path hroot hbelow.symm htext hmodule

theorem Located.packageIn_eq {r : Except Failure String} (h : Located d dir r) :
    (packageIn d (ofNames dir)).outcome = r := by
  cases h with
  | noModule hnone => exact packageIn_of_none ((findModuleRoot_eq_none_iff hd hdir).2 hnone)
  | path hroot hbelow hread hmodule =>
    rw [hroot.packageIn_eq hd hdir hbelow]
    simp [declaredModule, hread, hmodule, Except.map]
  | unreadable hroot hread =>
    obtain ⟨below, hbelow⟩ := hroot.above
    rw [hroot.packageIn_eq hd hdir hbelow.symm]
    simp [declaredModule, hread, Except.map]
  | badModule hroot hread hmodule =>
    obtain ⟨below, hbelow⟩ := hroot.above
    rw [hroot.packageIn_eq hd hdir hbelow.symm]
    simp [declaredModule, hread, hmodule, Except.map]

omit hdir

/-- Going down into a directory without a module file of its own adds its name. -/
theorem packageIn_concat (hname : d.get? (dir ++ [name]) = some .directory)
    (h : ¬HoldsModule d (dir ++ [name])) :
    (packageIn d (ofNames (dir ++ [name]))).outcome.toOption =
      (packageIn d (ofNames dir)).outcome.toOption.map (· ++ "/" ++ name.lossy) := by
  have hdir := hd.get?_parent hname
  have hsame := findModuleRoot_of_not_holds hd hname h
  cases hfound : findModuleRoot d (ofNames dir) with
  | none =>
    rw [packageIn_of_none hfound, packageIn_of_none (hsame.trans hfound)]
    rfl
  | some path =>
    obtain ⟨root, hroot, rfl⟩ := (findModuleRoot_eq_some_iff hd hdir).1 hfound
    obtain ⟨below, rfl⟩ := hroot.above
    have hdown : root ++ below ++ [name] = root ++ (below ++ [name]) := List.append_assoc _ _ _
    rw [hroot.packageIn_eq hd hdir rfl, (hroot.concat h).packageIn_eq hd hname hdown]
    cases declaredModule d (ofNames (root ++ [moduleFile])) with
    | error e => rfl
    | ok path => simp [Except.map, Except.toOption, String.append_assoc]

/-! ## The path of an input -/

theorem directory_of_canonical {input : OsText} (h : d.canonical input = .ok (dir ++ [name])) :
    d.get? dir = some .directory ∧ ∀ n ∈ dir ++ [name], IsComponent n := by
  obtain ⟨item, hget⟩ := hd.get?_of_canonical h
  exact ⟨hd.get?_parent hget, fun n hn => (hd.isEntryName hget n hn).component⟩

/-- The import path of an input is that of its real directory. -/
theorem modelPath_of_canonical {input : OsText} (h : d.canonical input = .ok (dir ++ [name]))
    (hfits : FitsPath (dir ++ [name])) : modelPath d input = packageIn d (ofNames dir) := by
  have hnames := (directory_of_canonical hd h).2
  have hparent : parent? (ofNames (dir ++ [name])) = some (ofNames dir) :=
    parent?_ofNames (fun n hn => hnames n (by simp [hn])) (hnames name (by simp))
  have hreal : d.canonicalize input = .ok (ofNames (dir ++ [name])) := by
    simp only [canonicalize, h, if_neg (Nat.not_lt.2 hfits)]
  simp only [modelPath, hreal, hparent]

omit hd

theorem modelPath_of_long {input : OsText} {names : List OsText}
    (h : d.canonical input = .ok names) (hlong : ¬FitsPath names) :
    (modelPath d input).outcome = .error (.unreadable input .nameTooLong) := by
  have hreal : d.canonicalize input = .error .nameTooLong := by
    simp only [canonicalize, h, if_pos (Nat.not_le.1 hlong)]
  simp only [modelPath, hreal]
  rfl

end

/-- A module in a module, whose file is a link. A directory below it is named as module files
are. -/
def nestedModules : Disk where
  entries := [
    (["src"], .directory),
    (["src", "go.mod"], .file "module outer".toUTF8 false),
    (["src", "db"], .directory),
    (["src", "db", "go.mod"], .link "../shared.mod"),
    (["src", "shared.mod"], .file "module inner // nested".toUTF8 false),
    (["src", "db", "query"], .directory),
    (["src", "db", "query", "go.mod"], .directory),
    (["src", "db", "query", "querier.go"], .file "package query".toUTF8 false),
    (["src", "latest"], .link "db/query")]
  cwd := ["src"]

/-- The directory of a package in the inner module. -/
def nestedPackage : List OsText := ["src", "db", "query"]

/-- The names of links that lead to a module file one over the other. -/
def linkName (n : Nat) : OsText := [108, (48 + n).toUInt8]

/-- A module in a module, whose file is reached over the given number of links. -/
def linkedModule (links : Nat) : Disk where
  entries :=
    (names "src", .directory) ::
    (names "src/go.mod", .file "module outer".toUTF8 false) ::
    (names "src/db", .directory) ::
    (names "src/db/querier.go", .file "package db".toUTF8 false) ::
    (names "src/db/go.mod", .link (linkName (links - 1))) ::
    (names "src/db" ++ [linkName 0], .file "module inner".toUTF8 false) ::
    (List.range (links - 1)).map fun n =>
      (names "src/db" ++ [linkName (n + 1)], .link (linkName n))
  cwd := names "src"

end Understudy
