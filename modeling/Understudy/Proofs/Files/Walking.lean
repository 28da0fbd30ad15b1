import Understudy.Files.Change

/-!
# Walking on a changed disk

A walk looks only at the directories and links on its way and at the name where it ends. A disk that
keeps the directories and links of another one lets its walks go the same way and end at what stands
there now.

* `Leads` is the walk as a relation, `walk_eq_ok` says that the two agree.
* `Holds`: what a walk says of the name where it ends is so.
* `Keeps`: the directories and links of a disk are kept.
* `Keeps.locate`: a path leads to the same name on a disk that keeps them.
-/

set_option autoImplicit false

namespace Understudy.Files.Disk

/-! ## What stands under a name -/

section
variable (d : Disk) {names other : List OsText} {item : Item}

@[simp]
theorem get?_nil : d.get? [] = some .directory := rfl

@[simp]
theorem get?_put_self (h : names ≠ []) : (d.put names item).get? names = some item := by
  simp [get?, put, h]

theorem get?_put_of_ne (h : other ≠ names) : (d.put names item).get? other = d.get? other := by
  have hlookup : ∀ es : List (List OsText × Item),
      (es.filter fun e => e.1 != names).lookup other = es.lookup other := by
    intro es
    induction es with
    | nil => rfl
    | cons e es ih =>
      by_cases he : e.1 = names
      · have hne : (other == e.1) = false := by simpa [he] using h
        rw [List.filter_cons_of_neg (by simp [he]), ih, List.lookup_cons, hne]
      · rw [List.filter_cons_of_pos (by simpa using he), List.lookup_cons, List.lookup_cons, ih]
  have hne : (other == names) = false := by simpa using h
  simp only [get?, put, List.lookup_cons, hne, hlookup]

end

/-! ## Walks as a relation -/

/-- A step that goes to a name in a directory. -/
structure IsName (step : OsText) : Prop where
  notHere : step ≠ Path.dot
  notUp : step ≠ Path.dotDot
  short : step.length ≤ nameLimit

/-- The steps lead from a directory to a place, over at most `links` links. -/
inductive Leads (d : Disk) (last : Bool) : (links : Nat) → List OsText → List OsText → Place → Prop
  | arrived {links : Nat} {dir : List OsText} : Leads d last links dir [] (.entry dir .directory)
  | here {links : Nat} {dir rest : List OsText} {p : Place} (h : Leads d last links dir rest p) :
    Leads d last links dir (Path.dot :: rest) p
  | up {links : Nat} {dir rest : List OsText} {p : Place}
    (h : Leads d last links dir.dropLast rest p) : Leads d last links dir (Path.dotDot :: rest) p
  | enter {links : Nat} {dir rest : List OsText} {step : OsText} {p : Place} (hstep : IsName step)
    (hget : d.get? (dir ++ [step]) = some .directory)
    (h : Leads d last links (dir ++ [step]) rest p) : Leads d last links dir (step :: rest) p
  | vacant {links : Nat} {dir : List OsText} {step : OsText} (hstep : IsName step)
    (hget : d.get? (dir ++ [step]) = none) : Leads d last links dir [step] (.vacant dir step)
  | file {links : Nat} {dir : List OsText} {step : OsText} {content : ByteArray} {executable : Bool}
    (hstep : IsName step) (hget : d.get? (dir ++ [step]) = some (.file content executable)) :
    Leads d last links dir [step] (.entry (dir ++ [step]) (.file content executable))
  | link {links : Nat} {dir : List OsText} {step target : OsText} (hstep : IsName step)
    (hget : d.get? (dir ++ [step]) = some (.link target)) (hlast : last = false) :
    Leads d last links dir [step] (.entry (dir ++ [step]) (.link target))
  | follow {links : Nat} {dir rest : List OsText} {step target : OsText} {p : Place}
    (hstep : IsName step) (hget : d.get? (dir ++ [step]) = some (.link target))
    (hlast : rest = [] → last = true)
    (h : Leads d last links (if Path.isAbsolute target then [] else dir) (steps target ++ rest) p) :
    Leads d last (links + 1) dir (step :: rest) p

section
variable {d : Disk} {last : Bool} {links : Nat} {dir path : List OsText} {p : Place}

/-- Walking gives what the relation says, if links are followed as it says. -/
theorem leads_of_walkSteps {follow : List OsText → List OsText → Except OsError Place}
    (hfollow : ∀ {dir path : List OsText}, follow dir path = .ok p →
      ∃ n, links = n + 1 ∧ Leads d last n dir path p)
    (h : walkSteps d follow last dir path = .ok p) : Leads d last links dir path p := by
  fun_induction walkSteps d follow last dir path with
  | case1 dir => cases h; exact .arrived
  | case2 dir rest ih => exact .here (ih h)
  | case3 dir rest _ ih => exact .up (ih h)
  | case4 => cases h
  | case5 dir step hhere hup hshort here hget =>
    cases h
    exact .vacant ⟨hhere, hup, Nat.le_of_not_lt hshort⟩ hget
  | case6 => cases h
  | case7 dir step rest hhere hup hshort here hget ih =>
    exact .enter ⟨hhere, hup, Nat.le_of_not_lt hshort⟩ hget (ih h)
  | case8 dir step hhere hup hshort here content executable hget =>
    cases h
    exact .file ⟨hhere, hup, Nat.le_of_not_lt hshort⟩ hget
  | case9 => cases h
  | case10 dir step rest hhere hup hshort here target hget hend =>
    obtain ⟨rfl, hlast⟩ := hend
    cases h
    exact .link ⟨hhere, hup, Nat.le_of_not_lt hshort⟩ hget hlast
  | case11 dir step rest hhere hup hshort here target hget hend =>
    obtain ⟨n, rfl, hleads⟩ := hfollow h
    refine .follow ⟨hhere, hup, Nat.le_of_not_lt hshort⟩ hget (fun hrest => ?_) hleads
    simpa [hrest] using hend

theorem leads_of_walk : ∀ {links : Nat} {dir path : List OsText},
    d.walk last links dir path = .ok p → Leads d last links dir path p
  | 0, _, _, h => leads_of_walkSteps (fun hfollow => by cases hfollow) h
  | _ + 1, _, _, h => leads_of_walkSteps (fun hfollow => ⟨_, rfl, leads_of_walk hfollow⟩) h

theorem walk_of_leads (h : Leads d last links dir path p) :
    d.walk last links dir path = .ok p := by
  induction h with
  | @arrived links => cases links <;> rfl
  | @here links _ _ _ _ ih => cases links <;> simpa [walk, walkSteps] using ih
  | @up links _ _ _ _ ih => cases links <;> simpa [walk, walkSteps] using ih
  | @enter links _ _ _ _ hstep hget _ ih =>
    have hshort := Nat.not_lt.2 hstep.short
    cases links <;>
      simpa [walk, walkSteps, hstep.notHere, hstep.notUp, hshort, hget] using ih
  | @vacant links _ _ hstep hget | @file links _ _ _ _ hstep hget =>
    have hshort := Nat.not_lt.2 hstep.short
    cases links <;> simp [walk, walkSteps, hstep.notHere, hstep.notUp, hshort, hget]
  | @link links _ _ _ hstep hget hlast =>
    have hshort := Nat.not_lt.2 hstep.short
    cases links <;> simp [walk, walkSteps, hstep.notHere, hstep.notUp, hshort, hget, hlast]
  | @follow links _ rest _ _ _ hstep hget hlast _ ih =>
    have hshort := Nat.not_lt.2 hstep.short
    have hend : ¬(rest = [] ∧ last = false) := fun hend => by simp [hlast hend.1] at hend
    simpa [walk, walkSteps, hstep.notHere, hstep.notUp, hshort, hget, hend] using ih

/-- **The walk is the relation.** -/
theorem walk_eq_ok : d.walk last links dir path = .ok p ↔ Leads d last links dir path p :=
  ⟨leads_of_walk, walk_of_leads⟩

/-! ## Where a walk ends -/

/-- What a place says of its name is so on the disk. A directory may be the one where a walk
begins, which is not looked at. -/
def Holds (d : Disk) : Place → Prop
  | .entry names item => item = .directory ∨ d.get? names = some item
  | .vacant dir name => d.get? (dir ++ [name]) = none

theorem Leads.holds (h : Leads d last links dir path p) : Holds d p := by
  induction h with
  | arrived => exact .inl rfl
  | here _ ih | up _ ih | enter _ _ _ ih | follow _ _ _ _ ih => exact ih
  | vacant _ hget => exact hget
  | file _ hget | link _ hget _ => exact .inr hget

end

/-! ## Disks that keep directories and links -/

/-- The second disk has the current directory and all directories and links of the first one. -/
structure Keeps (d d' : Disk) : Prop where
  cwd : d'.cwd = d.cwd
  directory : ∀ {names : List OsText}, d.get? names = some .directory →
    d'.get? names = some .directory
  link : ∀ {names : List OsText} {target : OsText}, d.get? names = some (.link target) →
    d'.get? names = some (.link target)

/-- A walk that ended at the first place before a change ends at the second one on the disk. -/
inductive Arrives (d : Disk) : Place → Place → Prop
  | directory (names : List OsText) :
    Arrives d (.entry names .directory) (.entry names .directory)
  | vacant {dir : List OsText} {name : OsText} {item : Item}
    (hget : d.get? (dir ++ [name]) = some item) (hlink : ∀ target, item ≠ .link target) :
    Arrives d (.vacant dir name) (.entry (dir ++ [name]) item)
  | file {names : List OsText} {content : ByteArray} {executable : Bool} {item : Item}
    (hget : d.get? names = some item) (hlink : ∀ target, item ≠ .link target) :
    Arrives d (.entry names (.file content executable)) (.entry names item)

/-- One step to what stands in a directory. -/
theorem leads_step {d : Disk} {last : Bool} {links : Nat} {dir : List OsText} {step : OsText}
    {item : Item} (hstep : IsName step) (hget : d.get? (dir ++ [step]) = some item)
    (hlink : ∀ target, item ≠ .link target) :
    Leads d last links dir [step] (.entry (dir ++ [step]) item) := by
  cases item with
  | directory => exact .enter hstep hget .arrived
  | file content executable => exact .file hstep hget
  | link target => exact absurd rfl (hlink target)

namespace Keeps

variable {d d' : Disk} (hkeeps : Keeps d d') {p q : Place} {last last' : Bool}
include hkeeps

/-- **A walk goes the same way where directories and links are kept**, also if it now follows a link
at its end that it did not follow before. -/
theorem leads (hlast : last = true → last' = true) (hq : Arrives d' p q) {links : Nat}
    {dir path : List OsText} (h : Leads d last links dir path p) :
    Leads d' last' links dir path q := by
  induction h with
  | arrived => cases hq; exact .arrived
  | here _ ih => exact .here (ih hq)
  | up _ ih => exact .up (ih hq)
  | enter hstep hget _ ih => exact .enter hstep (hkeeps.directory hget) (ih hq)
  | vacant hstep hget =>
    cases hq with
    | vacant hnow hlink => exact leads_step hstep hnow hlink
  | file hstep hget =>
    cases hq with
    | file hnow hlink => exact leads_step hstep hnow hlink
  | link => cases hq
  | follow hstep hget hrest _ ih =>
    exact .follow hstep (hkeeps.link hget) (fun h => hlast (hrest h)) (ih hq)

end Keeps

/-! ## Paths -/

/-- A path that leads somewhere can be walked. -/
theorem locate_eq_ok {d : Disk} {last : Bool} {path : OsText} {p : Place} :
    d.locate last path = .ok p ↔
      (path ≠ [] ∧ path.contains 0 = false ∧ path.length ≤ pathLimit) ∧
        Leads d last linkLimit (if Path.isAbsolute path then [] else d.cwd) (steps path) p := by
  rw [← walk_eq_ok]
  by_cases hempty : path = []
  · simp [locate, hempty]
  by_cases hnul : 0 ∈ path
  · simp [locate, hempty, hnul]
  by_cases hlong : pathLimit < path.length
  · simp [locate, hempty, hnul, hlong, Nat.not_le.2 hlong]
  · simp [locate, hempty, hnul, hlong, Nat.not_lt.1 hlong]

theorem locate_holds {d : Disk} {last : Bool} {path : OsText} {p : Place}
    (h : d.locate last path = .ok p) : Holds d p := (locate_eq_ok.1 h).2.holds

theorem isFile_iff {d : Disk} {path : OsText} : d.isFile path = true ↔
    ∃ names content executable,
      d.locate true path = .ok (.entry names (.file content executable)) := by
  unfold isFile
  split
  next hlocate => exact iff_of_true rfl ⟨_, _, _, hlocate⟩
  next hother => exact iff_of_false (by simp) fun ⟨_, _, _, hlocate⟩ => hother _ _ _ hlocate

/-- A path to a file leads to a name in a directory. -/
theorem exists_canonical {d : Disk} {path : OsText} (h : d.isFile path = true) :
    ∃ dir name, d.canonical path = .ok (dir ++ [name]) := by
  obtain ⟨names, content, executable, hlocate⟩ := isFile_iff.1 h
  have hcanonical : d.canonical path = .ok names := by simp only [canonical, hlocate, itemAt]
  have hget : d.get? names = some (.file content executable) :=
    (locate_holds hlocate).resolve_left (by simp)
  have hne : names ≠ [] := by
    rintro rfl
    cases hget
  exact ⟨names.dropLast, names.getLast hne, by rw [hcanonical, List.dropLast_concat_getLast hne]⟩

/-- A path leads to the same name where directories and links are kept. -/
theorem Keeps.locate {d d' : Disk} (hkeeps : Keeps d d') {p q : Place} {last last' : Bool}
    (hlast : last = true → last' = true) (hq : Arrives d' p q) {path : OsText}
    (h : d.locate last path = .ok p) : d'.locate last' path = .ok q := by
  obtain ⟨hpath, hleads⟩ := locate_eq_ok.1 h
  rw [← hkeeps.cwd] at hleads
  exact locate_eq_ok.2 ⟨hpath, hkeeps.leads hlast hq hleads⟩

end Understudy.Files.Disk
