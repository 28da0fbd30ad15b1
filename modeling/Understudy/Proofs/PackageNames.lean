import Mathlib.Logic.Relation
import Understudy.PackageName
import Understudy.Proofs.Files.Components
import Understudy.Proofs.Files.OsTexts

/-!
# Package names derived from an output path

The name of the package is the last name but one of the absolute output path, if it is a text. It
does not depend on how the path is spelled, nor on the name of the output file itself. Only a path
that begins at the root must not be made relative by a `./` in front of it, unless it names the
directory of the file too.

* `derivedPackage_eq`: where the name stands.
* `Respells`: another spelling of a path, or another name for the file.
* `Respells.directoryName?_eq`: one change of the spelling keeps the name.
* `genPackage_spelled`: all changes keep it.
-/

set_option autoImplicit false

namespace Understudy

open Files Path

/-! ## The last name but one -/

/-- The path from the root, in the current directory if it does not begin there. -/
def absolutePath (cwd path : OsText) : OsText :=
  if isAbsolute path then path else cwd ++ slash :: path

/-- The last name but one, unless it stands for the directory above. -/
def directoryName? (names : List OsText) : Option OsText :=
  match names.reverse with
  | _ :: dir :: _ => if dir = dotDot then none else some dir
  | _ => none

section
variable {xs : List OsText} {name cwd path : OsText}

theorem directoryName?_eq_some_iff :
    directoryName? xs = some name ↔ name ≠ dotDot ∧ ∃ front last, xs = front ++ [name, last] := by
  unfold directoryName?
  constructor
  · intro h
    split at h
    · rename_i last dir rest hxs
      split at h
      · cases h
      · rename_i hdir
        cases h
        refine ⟨hdir, rest.reverse, last, ?_⟩
        rw [← List.reverse_reverse xs, hxs]
        simp
    · cases h
  · rintro ⟨hname, front, last, rfl⟩
    simp [hname]

/-- The last name itself does not matter. -/
theorem directoryName?_concat (xs : List OsText) (name name' : OsText) :
    directoryName? (xs ++ [name]) = directoryName? (xs ++ [name']) := by
  unfold directoryName?
  rw [List.reverse_concat, List.reverse_concat]
  cases xs.reverse <;> rfl

theorem directoryName?_append (h : 2 ≤ xs.length) (front : List OsText) :
    directoryName? (front ++ xs) = directoryName? xs := by
  unfold directoryName?
  rw [List.reverse_append]
  rw [← List.length_reverse] at h
  cases hxs : xs.reverse with
  | nil => simp [hxs] at h
  | cons last rest =>
    cases rest with
    | nil => simp [hxs] at h
    | cons => rfl

/-- **The name of the directory** of a path is the last one but one of its names. -/
theorem parent?_bind_fileName? (h : components path = .root :: xs.map .ofPiece) :
    (parent? path).bind fileName? = directoryName? xs := by
  rcases List.eq_nil_or_concat xs with rfl | ⟨front, last, rfl⟩
  · rw [parent?_eq_none_iff.2 (.inr h)]
    rfl
  · rw [List.concat_eq_append, List.map_append] at h
    rcases List.eq_nil_or_concat front with rfl | ⟨front, dir, rfl⟩
    · -- The file stands in the root, which has no name.
      have hfile : components path = [] ++ [.root, .ofPiece last] := h
      obtain ⟨parent, hparent, hroot⟩ := exists_parent? hfile
      rw [hparent, Option.bind_some, fileName?_eq hroot]
      rfl
    · rw [List.concat_eq_append, List.map_append, List.append_assoc, ← List.cons_append] at h
      obtain ⟨parent, hparent, hdir⟩ := exists_parent? h
      rw [hparent, Option.bind_some, fileName?_eq hdir, Component.name?_ofPiece]
      simp [directoryName?]

theorem names_absolutePath (cwd path : OsText) : names (absolutePath cwd path) =
    (if isAbsolute path then [] else names cwd) ++ names path := by
  unfold absolutePath
  split
  · rfl
  · rw [names_append]

end

/-! ## Spellings -/

/-- A component can begin behind the text. -/
def AtComponent (front : OsText) : Prop := front = [] ∨ ∃ dir, front = dir ++ [slash]

/-- The second path is the first one with a change that does not concern its directory. -/
inductive Respells : OsText → OsText → Prop
  /-- A piece `.` is added; in front of an absolute path only if that has at least two names. -/
  | dot (front back : OsText) (hfront : AtComponent front)
    (hroot : front = [] → isAbsolute back = true → 2 ≤ (names back).length) :
    Respells (front ++ back) (front ++ (dot ++ slash :: back))
  /-- A slash is repeated. -/
  | slash (front back : OsText) :
    Respells (front ++ slash :: back) (front ++ slash :: slash :: back)
  /-- A slash is added at the end. -/
  | trailing (path : OsText) (hpath : path ≠ []) : Respells path (path ++ [slash])
  /-- The last component is changed to another name. -/
  | renamed (front tail : OsText) {name name' : OsText} (hfront : AtComponent front)
    (hname : IsComponent name) (hname' : IsComponent name')
    (htail : tail = [] ∨ ∃ more, tail = slash :: more) (hlast : names tail = []) :
    Respells (front ++ (name ++ tail)) (front ++ (name' ++ tail))

section
variable {path path' front back name : OsText}

theorem names_atComponent (h : AtComponent front) (back : OsText) :
    names (front ++ back) = names front ++ names back := by
  rcases h with rfl | ⟨dir, rfl⟩
  · rfl
  · rw [List.append_assoc, List.singleton_append, names_append, names_slash]

/-- The names of a path with its last component apart. -/
theorem names_last (hfront : AtComponent front) (hname : IsComponent name) {tail : OsText}
    (htail : tail = [] ∨ ∃ more, tail = slash :: more) (hlast : names tail = []) :
    names (front ++ (name ++ tail)) = names front ++ [name] := by
  rw [names_atComponent hfront]
  congr 1
  rcases htail with rfl | ⟨more, rfl⟩
  · rw [List.append_nil, names_component hname]
  · have hmore : names more = [] := hlast
    rw [names_append, names_component hname, hmore]
    rfl

theorem names_absolutePath_congr (habsolute : isAbsolute path' = isAbsolute path)
    (hnames : names path' = names path) (cwd : OsText) :
    names (absolutePath cwd path') = names (absolutePath cwd path) := by
  rw [names_absolutePath, names_absolutePath, habsolute, hnames]

theorem Respells.ne_nil (h : Respells path path') : path' ≠ [] := by
  cases h with
  | dot | slash | trailing => simp
  | renamed _ _ _ _ hname' => simp [hname'.ne_nil]

/-- **One change keeps the name of the directory.** -/
theorem Respells.directoryName?_eq (h : Respells path path') (cwd : OsText) :
    directoryName? (names (absolutePath cwd path')) =
      directoryName? (names (absolutePath cwd path)) := by
  cases h with
  | dot front back hfront hroot =>
    have hnames : names (front ++ (Path.dot ++ Path.slash :: back)) = names (front ++ back) := by
      rw [names_atComponent hfront, names_atComponent hfront, names_append]
      rfl
    by_cases hempty : front = []
    · subst hempty
      have hrelative : isAbsolute ([] ++ (Path.dot ++ Path.slash :: back)) = false := rfl
      cases habsolute : isAbsolute back with
      | false => rw [names_absolutePath_congr (hrelative.trans habsolute.symm) hnames]; rfl
      | true =>
        -- The path becomes relative, and its own two names still decide.
        rw [names_absolutePath, names_absolutePath, hnames, hrelative, List.nil_append, habsolute,
          if_neg (by simp), if_pos rfl, directoryName?_append (hroot rfl habsolute)]
        rfl
    · have habsolute : isAbsolute (front ++ (Path.dot ++ Path.slash :: back)) =
          isAbsolute (front ++ back) := by
        rw [isAbsolute_append_of_ne hempty, isAbsolute_append_of_ne hempty]
      rw [names_absolutePath_congr habsolute hnames]
  | slash front back =>
    have hnames : names (front ++ Path.slash :: Path.slash :: back) =
        names (front ++ Path.slash :: back) := by
      rw [names_append, names_append]
      rfl
    have habsolute : isAbsolute (front ++ Path.slash :: Path.slash :: back) =
        isAbsolute (front ++ Path.slash :: back) := by
      rw [isAbsolute_append, isAbsolute_append front back]
    rw [names_absolutePath_congr habsolute hnames]
  | trailing path hpath =>
    rw [names_absolutePath_congr (isAbsolute_append_of_ne hpath _) (names_slash path)]
  | @renamed front tail name name' hfront hname hname' htail hlast =>
    have habsolute : isAbsolute (front ++ (name' ++ tail)) =
        isAbsolute (front ++ (name ++ tail)) := by
      by_cases hempty : front = []
      · rw [hempty, List.nil_append, List.nil_append, hname.isAbsolute_append,
          hname'.isAbsolute_append]
      · rw [isAbsolute_append_of_ne hempty, isAbsolute_append_of_ne hempty]
    rw [names_absolutePath, names_absolutePath, habsolute, names_last hfront hname htail hlast,
      names_last hfront hname' htail hlast]
    generalize (if isAbsolute (front ++ (name ++ tail)) = true then [] else names cwd) = start
    rw [← List.append_assoc, ← List.append_assoc]
    exact directoryName?_concat _ name' name

end

/-! ## The package -/

section
variable {cwd output output' : OsText}

/-- **The derived package** is the last name but one of the absolute path, if it is a text. -/
theorem derivedPackage_eq (hcwd : isAbsolute cwd = true) (h : output ≠ []) :
    derivedPackage cwd output =
      ((directoryName? (names (absolutePath cwd output))).bind OsText.toStr?).elim
        (.error (.noPackageName output)) .ok := by
  obtain ⟨whole, hwhole, hcomponents⟩ := components_absolute hcwd h
  rw [← names_absolutePath] at hcomponents
  simp only [derivedPackage, hwhole, parent?_bind_fileName? hcomponents]
  cases (directoryName? (names (absolutePath cwd output))).bind OsText.toStr? <;> rfl

theorem derivedPackage_toOption (hcwd : isAbsolute cwd = true) (h : output ≠ []) :
    (derivedPackage cwd output).toOption =
      (directoryName? (names (absolutePath cwd output))).bind OsText.toStr? := by
  rw [derivedPackage_eq hcwd h]
  cases (directoryName? (names (absolutePath cwd output))).bind OsText.toStr? <;> rfl

theorem derivedPackage_eq_ok_iff (hcwd : isAbsolute cwd = true) (h : output ≠ [])
    {name : String} : derivedPackage cwd output = .ok name ↔
      directoryName? (names (absolutePath cwd output)) = some (OsText.ofString name) := by
  have hname : derivedPackage cwd output = .ok name ↔
      (derivedPackage cwd output).toOption = some name := by
    cases derivedPackage cwd output <;> simp [Except.toOption]
  rw [hname, derivedPackage_toOption hcwd h, Option.bind_eq_some_iff]
  simp only [OsText.toStr?_eq_some_iff, exists_eq_right]

theorem derivedPackage_eq_error (hcwd : isAbsolute cwd = true) (h : output ≠ [])
    (hnone : ∀ name, derivedPackage cwd output ≠ .ok name) :
    derivedPackage cwd output = .error (.noPackageName output) := by
  rw [derivedPackage_eq hcwd h] at hnone ⊢
  cases hname : (directoryName? (names (absolutePath cwd output))).bind OsText.toStr? with
  | none => rfl
  | some name => exact absurd (by rw [hname]; rfl) (hnone name)

/-- Any number of changes keeps the name of the directory. -/
theorem directoryName?_respelled (houtput : output ≠ [])
    (h : Relation.ReflTransGen Respells output output') (cwd : OsText) :
    output' ≠ [] ∧ directoryName? (names (absolutePath cwd output')) =
      directoryName? (names (absolutePath cwd output)) := by
  induction h with
  | refl => exact ⟨houtput, rfl⟩
  | tail _ hstep ih => exact ⟨hstep.ne_nil, (hstep.directoryName?_eq cwd).trans ih.2⟩

end

/-- **The package is the last name but one** of the absolute output path, unless there is none, or it
stands for the directory above, or it is no text. No change of the spelling, and no other name for
the file, gives another package. -/
theorem genPackage_spelled (cwd : OsText) (hcwd : isAbsolute cwd = true) (o : Options)
    (hpackage : o.package = none) (houtput : o.output ≠ []) :
    (∀ name : String, o.genPackage cwd = .ok name ↔ name ≠ ".." ∧
      ∃ front last, names (absolutePath cwd o.output) = front ++ [OsText.ofString name, last]) ∧
    ((∀ name, o.genPackage cwd ≠ .ok name) →
      o.genPackage cwd = .error (.noPackageName o.output)) ∧
    ∀ output, Relation.ReflTransGen Respells o.output output → output ≠ [] ∧
      (Options.genPackage cwd { o with output }).toOption = (o.genPackage cwd).toOption := by
  have hderived : ∀ output, Options.genPackage cwd { o with output } =
      derivedPackage cwd output := by
    intro output
    simp only [Options.genPackage, hpackage]
  have hwhole : o.genPackage cwd = derivedPackage cwd o.output := hderived o.output
  rw [hwhole]
  refine ⟨fun name => ?_, derivedPackage_eq_error hcwd houtput, fun output h => ?_⟩
  · have hdots : OsText.ofString name ≠ dotDot ↔ name ≠ ".." :=
      not_congr (OsText.ofString_inj (t := ".."))
    rw [derivedPackage_eq_ok_iff hcwd houtput, directoryName?_eq_some_iff, hdots]
  · obtain ⟨hne, hsame⟩ := directoryName?_respelled houtput h cwd
    refine ⟨hne, ?_⟩
    rw [hderived, derivedPackage_toOption hcwd hne, derivedPackage_toOption hcwd houtput, hsame]

/-- Options with an output and no package. -/
def unnamedOptions (output : OsText) : Options := ⟨"querier.go", output, none, none, true⟩

/-- A directory whose name is no text gives no package. -/
example : (unnamedOptions (255 :: "/mock.go")).genPackage "/srv/app" =
    .error (.noPackageName (255 :: "/mock.go")) := rfl

theorem mockOutput_spelled :
    Relation.ReflTransGen Respells "/mocks/querier.go" ".//mocks/mock.go/" ∧
      ((unnamedOptions ".//mocks/mock.go/").genPackage "/srv/app").toOption = some "mocks" := by
  have hdot : Respells "/mocks/querier.go" ".//mocks/querier.go" :=
    .dot [] "/mocks/querier.go" (.inl rfl) (fun _ _ => by decide +kernel)
  have hname : IsComponent "querier.go" := ⟨by decide +kernel, rfl⟩
  have hname' : IsComponent "mock.go" := ⟨by decide +kernel, rfl⟩
  have hrenamed : Respells ".//mocks/querier.go" ".//mocks/mock.go" :=
    .renamed ".//mocks/" [] (.inr ⟨".//mocks", rfl⟩) hname hname' (.inl rfl) rfl
  have htrailing : Respells ".//mocks/mock.go" ".//mocks/mock.go/" := .trailing _ (by decide)
  have hspelled := ((Relation.ReflTransGen.single hdot).tail hrenamed).tail htrailing
  obtain ⟨hplace, -, hsame⟩ :=
    genPackage_spelled "/srv/app" rfl (unnamedOptions "/mocks/querier.go") rfl (by decide)
  have hmocks : (unnamedOptions "/mocks/querier.go").genPackage "/srv/app" = .ok "mocks" :=
    (hplace "mocks").2 ⟨by decide, [], "querier.go", by decide +kernel⟩
  refine ⟨hspelled, (hsame _ hspelled).2.trans ?_⟩
  rw [hmocks]
  rfl

/-- A `./` in front of a path of one name makes it a path in the current directory. -/
theorem rootOutput_dotted :
    (unnamedOptions "/mock.go").genPackage "/srv/app" = .error (.noPackageName "/mock.go") ∧
      (unnamedOptions ".//mock.go").genPackage "/srv/app" = .ok "app" :=
  ⟨rfl, rfl⟩

end Understudy
