import Mathlib.Data.List.Induction
import Understudy.Proofs.Files.Paths
import Understudy.Proofs.Files.Walking

/-!
# Real names on a file tree

On a file tree everything stands in a directory, under a name that can be written in a path. So the
absolute path that is made of a real name leads to what stands under it, if it is not too long.

* `IsTree`: the disk is a file tree.
* `IsTree.get?_of_leads`: where a walk ends, there is what it says.
* `IsTree.walk_down`: a real directory is walked to by its names.
* `IsTree.locate_ofNames`: an absolute path in a real directory.
* `IsTree.get?_of_canonical`: a real name stands on the tree.
-/

set_option autoImplicit false

namespace Understudy.Files.Disk

open Files.Path

/-- Something can stand under the name in a directory. -/
structure IsEntryName (name : OsText) : Prop where
  component : IsComponent name
  step : IsName name
  noNul : 0 ∉ name

/-- The disk is a file tree: everything has a name that can be written, and stands in a directory. -/
structure IsTree (d : Disk) : Prop where
  entryName : ∀ e ∈ d.entries, ∀ name ∈ e.1, IsEntryName name
  parent : ∀ e ∈ d.entries, d.get? e.1.dropLast = some .directory
  cwd : d.get? d.cwd = some .directory

instance (name : OsText) : Decidable (IsEntryName name) :=
  decidable_of_iff ((slash ∉ name ∧ isName name = true) ∧
      (name ≠ dot ∧ name ≠ dotDot ∧ name.length ≤ nameLimit) ∧ 0 ∉ name)
    ⟨fun ⟨⟨h₁, h₂⟩, ⟨h₃, h₄, h₅⟩, h₆⟩ => ⟨⟨h₁, h₂⟩, ⟨h₃, h₄, h₅⟩, h₆⟩,
      fun ⟨⟨h₁, h₂⟩, ⟨h₃, h₄, h₅⟩, h₆⟩ => ⟨⟨h₁, h₂⟩, ⟨h₃, h₄, h₅⟩, h₆⟩⟩

instance (d : Disk) : Decidable (IsTree d) :=
  decidable_of_iff ((∀ e ∈ d.entries, ∀ name ∈ e.1, IsEntryName name) ∧
      (∀ e ∈ d.entries, d.get? e.1.dropLast = some .directory) ∧ d.get? d.cwd = some .directory)
    ⟨fun ⟨h₁, h₂, h₃⟩ => ⟨h₁, h₂, h₃⟩, fun ⟨h₁, h₂, h₃⟩ => ⟨h₁, h₂, h₃⟩⟩

/-- The path of a real name is not too long to be walked. -/
def FitsPath (names : List OsText) : Prop := (ofNames names).length ≤ pathLimit

instance (names : List OsText) : Decidable (FitsPath names) :=
  inferInstanceAs (Decidable (_ ≤ _))

section
variable {d : Disk} {names dir rest : List OsText} {name : OsText} {item : Item} {last : Bool}
  {links : Nat}

theorem exists_entry (h : d.get? names = some item) (hne : names ≠ []) :
    ∃ e ∈ d.entries, e.1 = names := by
  rw [get?, if_neg hne, List.lookup_eq_some_iff] at h
  obtain ⟨front, back, hentries, -⟩ := h
  exact ⟨(names, item), by simp [hentries], rfl⟩

namespace IsTree

variable (hd : IsTree d)
include hd

theorem isEntryName (h : d.get? names = some item) : ∀ name ∈ names, IsEntryName name := by
  by_cases hne : names = []
  · simp [hne]
  · obtain ⟨e, he, rfl⟩ := exists_entry h hne
    exact hd.entryName e he

theorem get?_dropLast (h : d.get? names = some item) : d.get? names.dropLast = some .directory := by
  by_cases hne : names = []
  · simp [hne]
  · obtain ⟨e, he, rfl⟩ := exists_entry h hne
    exact hd.parent e he

theorem get?_parent (h : d.get? (dir ++ [name]) = some item) : d.get? dir = some .directory := by
  have hparent := hd.get?_dropLast h
  rwa [List.dropLast_concat] at hparent

/-- What stands above a directory is a directory. -/
theorem get?_front (h : d.get? (dir ++ rest) = some .directory) :
    d.get? dir = some .directory := by
  induction rest using List.reverseRecOn with
  | nil => rwa [List.append_nil] at h
  | append_singleton rest name ih =>
    rw [← List.append_assoc] at h
    exact ih (hd.get?_parent h)

/-- **Where a walk ends** there is what it says, if it begins in a real directory. -/
theorem get?_of_leads {path : List OsText} {p : Place} (h : Leads d last links dir path p)
    (hdir : d.get? dir = some .directory) (hp : p = .entry names item) :
    d.get? names = some item := by
  induction h with
  | arrived =>
    cases hp
    exact hdir
  | here _ ih => exact ih hdir hp
  | up _ ih => exact ih (hd.get?_dropLast hdir) hp
  | enter _ hget _ ih => exact ih hget hp
  | vacant => cases hp
  | file _ hget | link _ hget _ =>
    cases hp
    exact hget
  | follow _ _ _ _ ih =>
    refine ih ?_ hp
    split
    · rfl
    · exact hdir

end IsTree

/-! ## Walking down -/

theorem walk_enter (hname : IsName name) (hget : d.get? (dir ++ [name]) = some .directory) :
    d.walk last links dir (name :: rest) = d.walk last links (dir ++ [name]) rest := by
  have hshort := Nat.not_lt.2 hname.short
  cases links <;> simp [walk, walkSteps, hname.notHere, hname.notUp, hshort, hget]

/-- A real directory is walked to by its names. -/
theorem IsTree.walk_down (hd : IsTree d) (h : d.get? (dir ++ names) = some .directory) :
    d.walk last links dir (names ++ rest) = d.walk last links (dir ++ names) rest := by
  induction names generalizing dir with
  | nil => rw [List.append_nil, List.nil_append]
  | cons name names ih =>
    have hsplit : dir ++ name :: names = dir ++ [name] ++ names := by simp
    rw [hsplit] at h ⊢
    have hget := hd.get?_front h
    have hname := hd.isEntryName hget name (by simp)
    rw [List.cons_append, walk_enter hname.step hget, ih h]

theorem steps_ofNames (hne : names ≠ []) (h : ∀ name ∈ names, IsComponent name) :
    steps (ofNames names) = names := by
  have hpieces := pieces_ofNames hne fun name hname => (h name hname).noSlash
  rw [steps, hpieces, endsInSlash_ofNames hne h, if_neg (by simp), List.append_nil,
    List.filter_cons_of_neg (by simp), List.filter_eq_self]
  intro name hname
  simpa using (h name hname).ne_nil

theorem nul_not_mem_ofNames (h : ∀ name ∈ names, IsEntryName name) : 0 ∉ ofNames names := by
  intro hnul
  rcases List.mem_cons.1 hnul with hslash | hnul
  · cases hslash
  · rcases mem_ofPieces hnul with hslash | ⟨name, hname, hnul⟩
    · cases hslash
    · exact (h name hname).noNul hnul

/-! ## Absolute paths -/

namespace IsTree

variable (hd : IsTree d)
include hd

theorem isEntryName_concat (hdir : d.get? dir = some .directory) (hname : IsEntryName name) :
    ∀ n ∈ dir ++ [name], IsEntryName n := by
  intro n hn
  rcases List.mem_append.1 hn with hn | hn
  · exact hd.isEntryName hdir n hn
  · rw [List.mem_singleton.1 hn]
    exact hname

/-- **A name in a real directory** is walked to by its absolute path, if that is not too long. -/
theorem locate_ofNames (hdir : d.get? dir = some .directory) (hname : IsEntryName name) :
    d.locate true (ofNames (dir ++ [name])) =
      if FitsPath (dir ++ [name]) then d.walk true linkLimit dir [name]
      else .error .nameTooLong := by
  have hnames := hd.isEntryName_concat hdir hname
  have hnul : (ofNames (dir ++ [name])).contains 0 = false := by
    simpa using nul_not_mem_ofNames hnames
  have hsteps := steps_ofNames (by simp) fun n hn => (hnames n hn).component
  rw [locate, if_neg (ofNames_ne_nil _), hnul, if_neg (by simp), isAbsolute_ofNames, if_pos rfl,
    hsteps, hd.walk_down (by simpa using hdir), List.nil_append]
  by_cases hfits : FitsPath (dir ++ [name])
  · rw [if_pos hfits, if_neg (Nat.not_lt.2 hfits)]
  · rw [if_neg hfits, if_pos (Nat.not_le.1 hfits)]

theorem get?_of_canonical {path : OsText} (h : d.canonical path = .ok names) :
    ∃ item, d.get? names = some item := by
  have hstart : d.get? (if isAbsolute path then [] else d.cwd) = some .directory := by
    split
    · rfl
    · exact hd.cwd
  unfold canonical at h
  cases hlocate : d.locate true path with
  | error e => simp [hlocate, itemAt] at h
  | ok place =>
    cases place with
    | vacant => simp [hlocate, itemAt] at h
    | entry found item =>
      obtain rfl : found = names := by simpa [hlocate, itemAt] using h
      exact ⟨item, hd.get?_of_leads (locate_eq_ok.1 hlocate).2 hstart rfl⟩

end IsTree

end

end Understudy.Files.Disk
