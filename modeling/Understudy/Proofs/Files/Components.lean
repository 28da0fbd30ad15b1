import Understudy.Proofs.Files.Paths

/-!
# Components of paths

What the functions on paths do to the text of a path is told by its components: a parent has all but
the last one, a name that is put below a path is one more, and an absolute path begins with the root.

* `components_parent?`, `parent?_eq_none_iff`: parents.
* `components_join`, `components_absolute`: paths put below others.
* `exists_stripPrefix?`: a path lies below its parents.
-/

set_option autoImplicit false

namespace Understudy.Files.Path

/-! ## Reading components -/

@[simp]
theorem Component.text_ofPiece (piece : OsText) : (ofPiece piece).text = piece := by
  unfold ofPiece
  split
  next h => exact h.symm
  next => rfl

theorem Component.ofPiece_ne_root (piece : OsText) : ofPiece piece ≠ root := by
  unfold ofPiece
  split <;> simp

theorem Component.ofPiece_ne_here (piece : OsText) : ofPiece piece ≠ here := by
  unfold ofPiece
  split <;> simp

/-- The name that a piece is, unless it stands for the directory above. -/
theorem Component.name?_ofPiece (piece : OsText) :
    (ofPiece piece).name? = if piece = dotDot then none else some piece := by
  unfold ofPiece
  split <;> rfl

theorem Component.ofFirst_eq_root_iff {piece : OsText} : ofFirst piece = root ↔ piece = [] := by
  unfold ofFirst
  split
  next h => simp [h]
  next h =>
    split
    · simp [h]
    · simp [h, ofPiece_ne_root]

section
variable {path name piece : OsText} {xs : List OsText}

theorem ofSplit_concat (h : xs ≠ []) (piece : OsText) :
    ofSplit (xs ++ [piece]) = ofSplit xs ++ if isName piece then [.ofPiece piece] else [] := by
  obtain ⟨first, rest, rfl⟩ := List.exists_cons_of_ne_nil h
  cases hpiece : isName piece <;> simp [ofSplit, hpiece]

theorem components_of_ne_nil (h : path ≠ []) : components path = ofSplit (pieces path) := if_neg h

theorem components_append_slash (front back : OsText) :
    components (front ++ slash :: back) = ofSplit (pieces front ++ pieces back) := by
  rw [components_of_ne_nil (by simp), pieces_append]

/-- A path that does not begin at the root begins with a piece that is not empty. -/
theorem exists_pieces_eq_cons (hpath : path ≠ []) (h : isAbsolute path = false) :
    ∃ first rest, pieces path = first :: rest ∧ first ≠ [] := by
  obtain ⟨b, bs, rfl⟩ := List.exists_cons_of_ne_nil hpath
  have hb : ¬(b == slash) = true := by simpa [isAbsolute] using h
  obtain ⟨first, rest, hrest⟩ := List.exists_cons_of_ne_nil (pieces_ne_nil bs)
  refine ⟨b :: first, rest, ?_, List.cons_ne_nil b first⟩
  rw [pieces, Text.splitBy, if_neg hb, ← pieces, hrest]
  rfl

/-- The components of a path from the root. -/
theorem components_of_isAbsolute (h : isAbsolute path = true) :
    components path = .root :: (names path).map .ofPiece := by
  obtain ⟨back, rfl⟩ : ∃ back, path = slash :: back := by
    cases path with
    | nil => cases h
    | cons b back => exact ⟨back, by simpa [isAbsolute] using h⟩
  have hnames : names (slash :: back) = names back := names_append [] back
  rw [hnames]
  exact components_append_slash [] back

theorem components_ofNames (h : ∀ n ∈ xs, IsComponent n) :
    components (ofNames xs) = .root :: xs.map .ofPiece := by
  rw [components_of_isAbsolute (isAbsolute_ofNames xs), names_ofNames h]

/-- The components of a path that does not begin at the root, without a `.` in front. -/
theorem dropHere_components (hpath : path ≠ []) (h : isAbsolute path = false) :
    dropHere (components path) = (names path).map .ofPiece := by
  obtain ⟨first, rest, hpieces, hfirst⟩ := exists_pieces_eq_cons hpath h
  rw [components_of_ne_nil hpath, names, hpieces, ofSplit, Component.ofFirst, if_neg hfirst]
  by_cases hdot : first = dot
  · rw [if_pos hdot, List.filter_cons_of_neg (by simp [isName, hdot])]
    rfl
  · rw [if_neg hdot, List.filter_cons_of_pos (by simp [isName, hfirst, hdot]), List.map_cons,
      dropHere]
    exact fun _ h => Component.ofPiece_ne_here first (List.cons.inj h).1

theorem isAbsolute_iff : isAbsolute path = true ↔ (components path).head? = some .root := by
  cases habsolute : isAbsolute path with
  | true => simp [components_of_isAbsolute habsolute]
  | false =>
    by_cases hpath : path = []
    · simp [hpath, components]
    · obtain ⟨first, rest, hpieces, hfirst⟩ := exists_pieces_eq_cons hpath habsolute
      simp [components_of_ne_nil hpath, hpieces, ofSplit, Component.ofFirst_eq_root_iff, hfirst]

/-! ## Parents -/

/-- Where no piece is left, there was none, or nothing but the root. -/
theorem ofSplit_of_dropIdle_nil (h : dropIdle xs = []) (hxs : xs ≠ []) :
    ofSplit xs.reverse = [.root] := by
  fun_induction dropIdle xs with
  | case1 => exact absurd rfl hxs
  | case2 => rfl
  | case3 => cases h
  | case4 => cases h
  | case5 piece rest hrest hpiece ih =>
    rw [List.reverse_cons, ofSplit_concat (by simpa using hrest), ih h hrest, if_neg hpiece]
    rfl

/-- What is left ends in a component, and the components are the same. -/
theorem dropIdle_eq_cons {rest : List OsText} (h : dropIdle xs = piece :: rest) :
    piece ≠ [] ∧ (rest ≠ [] → isName piece = true) ∧ (piece :: rest) <:+ xs ∧
      ofSplit xs.reverse = ofSplit (piece :: rest).reverse := by
  fun_induction dropIdle xs with
  | case1 => cases h
  | case2 => cases h
  | case3 x hx =>
    cases h
    exact ⟨hx, fun hne => absurd rfl hne, List.suffix_rfl, rfl⟩
  | case4 x xs _ hx =>
    cases h
    have hne : piece ≠ [] := by
      rintro rfl
      cases hx
    exact ⟨hne, fun _ => hx, List.suffix_rfl, rfl⟩
  | case5 x xs hxs hx ih =>
    obtain ⟨hne, hname, hsuffix, hsame⟩ := ih h
    refine ⟨hne, hname, hsuffix.trans (List.suffix_cons x xs), ?_⟩
    rw [List.reverse_cons, ofSplit_concat (by simpa using hxs), if_neg hx, List.append_nil, hsame]

/-- The components that pieces make when they are put together. -/
theorem components_ofPieces (hne : xs ≠ [[]]) (h : ∀ piece ∈ xs, slash ∉ piece) :
    components (ofPieces xs) = ofSplit xs := by
  by_cases hxs : xs = []
  · subst hxs
    rfl
  · have hpieces := pieces_ofPieces hxs h
    have htext : ofPieces xs ≠ [] := by
      intro hnil
      rw [hnil] at hpieces
      exact hne hpieces.symm
    rw [components_of_ne_nil htext, hpieces]

theorem components_of_dropIdle {rest : List OsText}
    (h : dropIdle (pieces path).reverse = piece :: rest) :
    components path = ofSplit (piece :: rest).reverse := by
  have hpath : path ≠ [] := by
    rintro rfl
    cases h
  obtain ⟨-, -, -, hsplit⟩ := dropIdle_eq_cons h
  rw [components_of_ne_nil hpath, ← hsplit, List.reverse_reverse]

/-- What is left of the pieces of a path is written with the same components. -/
theorem components_ofPieces_dropIdle {kept : List OsText} (h : dropIdle xs = piece :: kept)
    (hslash : ∀ piece ∈ xs, slash ∉ piece) :
    components (ofPieces (piece :: kept).reverse) = ofSplit xs.reverse := by
  obtain ⟨hne, -, hsuffix, hsplit⟩ := dropIdle_eq_cons h
  rw [hsplit, components_ofPieces]
  · intro heq
    rw [List.reverse_eq_iff, List.reverse_singleton, List.cons.injEq] at heq
    exact hne heq.1
  · exact fun piece hpiece => hslash piece (hsuffix.subset (List.mem_reverse.1 hpiece))

/-- **A parent has all components but the last one.** -/
theorem components_parent? {parent : OsText} (h : parent? path = some parent) :
    ∃ c, c ≠ .root ∧ components path = components parent ++ [c] := by
  unfold parent? at h
  cases hlast : dropIdle (pieces path).reverse with
  | nil => simp [hlast] at h
  | cons last rest =>
    have hpath := components_of_dropIdle hlast
    obtain ⟨hne, hname, hsuffix, -⟩ := dropIdle_eq_cons hlast
    by_cases hrest : rest = []
    · -- The only component of a path that does not begin at the root.
      subst hrest
      have hroot : Component.ofFirst last ≠ .root := mt Component.ofFirst_eq_root_iff.1 hne
      have hrelative : ¬isAbsolute path = true := by
        rw [isAbsolute_iff, hpath]
        exact fun heq => hroot (Option.some.inj heq)
      simp only [hlast, dropIdle, if_neg hrelative, Option.some.injEq] at h
      exact ⟨.ofFirst last, hroot, h ▸ hpath⟩
    · rw [List.reverse_cons, ofSplit_concat (by simpa using hrest), if_pos (hname hrest)] at hpath
      refine ⟨.ofPiece last, Component.ofPiece_ne_root last, hpath.trans (congrArg (· ++ _) ?_)⟩
      cases hkept : dropIdle rest with
      | nil =>
        have hfront := ofSplit_of_dropIdle_nil hkept hrest
        have habsolute : isAbsolute path = true := by
          rw [isAbsolute_iff, hpath, hfront]
          rfl
        simp only [hlast, hkept, if_pos habsolute, Option.some.injEq] at h
        exact hfront.trans (h ▸ rfl)
      | cons kept more =>
        simp only [hlast, hkept, Option.some.injEq] at h
        rw [← h, components_ofPieces_dropIdle hkept]
        intro piece hpiece
        exact slash_not_mem_piece (List.mem_reverse.1 (hsuffix.subset (.tail _ hpiece)))

theorem parent?_eq_none_iff :
    parent? path = none ↔ components path = [] ∨ components path = [.root] := by
  constructor
  · intro h
    by_cases hpath : path = []
    · exact .inl (if_pos hpath)
    · right
      have hnil : dropIdle (pieces path).reverse = [] := by
        unfold parent? at h
        split at h
        next hnil => exact hnil
        next => split at h <;> cases h
      have hsplit := ofSplit_of_dropIdle_nil hnil (by simpa using pieces_ne_nil path)
      rwa [List.reverse_reverse, ← components_of_ne_nil hpath] at hsplit
  · intro h
    cases hparent : parent? path with
    | none => rfl
    | some parent =>
      obtain ⟨c, hc, hcomponents⟩ := components_parent? hparent
      rw [hcomponents, List.append_eq_nil_iff, List.append_eq_singleton_iff] at h
      simp [hc] at h

/-- The path of more than the root has a parent. -/
theorem exists_parent? {front : List Component} {c d : Component}
    (h : components path = front ++ [c, d]) :
    ∃ parent, parent? path = some parent ∧ components parent = front ++ [c] := by
  cases hparent : parent? path with
  | none => simp [parent?_eq_none_iff, h, List.append_eq_singleton_iff] at hparent
  | some parent =>
    obtain ⟨last, -, hlast⟩ := components_parent? hparent
    rw [h, ← List.singleton_append, ← List.append_assoc] at hlast
    exact ⟨parent, rfl, (List.append_inj_left' hlast rfl).symm⟩

theorem dropIdle_cons (hpiece : isName piece = true) (hxs : xs ≠ []) :
    dropIdle (piece :: xs) = piece :: xs := by
  cases xs with
  | nil => exact absurd rfl hxs
  | cons => simp [dropIdle, hpiece]

theorem parent?_root : parent? (ofNames []) = none := rfl

/-- The parent of a file is its directory. -/
theorem parent?_ofNames (h : ∀ n ∈ xs, IsComponent n) (hname : IsComponent name) :
    parent? (ofNames (xs ++ [name])) = some (ofNames xs) := by
  have hslash : ∀ n ∈ xs ++ [name], slash ∉ n := by
    intro n hn
    rcases List.mem_append.1 hn with hn | hn
    · exact (h n hn).noSlash
    · rw [List.mem_singleton.1 hn]
      exact hname.noSlash
  have hpieces : (pieces (ofNames (xs ++ [name]))).reverse = name :: (xs.reverse ++ [[]]) := by
    rw [pieces_ofNames (by simp) hslash]
    simp
  rw [parent?, hpieces, dropIdle_cons hname.isName (by simp)]
  rcases List.eq_nil_or_concat xs with rfl | ⟨front, last, hxs⟩
  · rfl
  · rw [List.concat_eq_append] at hxs
    have hlast : IsComponent last := h last (by simp [hxs])
    have hkept : dropIdle (xs.reverse ++ [[]]) = last :: (front.reverse ++ [[]]) := by
      rw [hxs, List.reverse_concat, List.cons_append, dropIdle_cons hlast.isName (by simp)]
    simp only [hkept, Option.some.injEq]
    rw [List.reverse_cons, List.reverse_append, List.reverse_reverse, ofNames, hxs]
    exact ofPieces_cons (by simp) []

theorem fileName?_eq {front : List Component} {c : Component} (h : components path = front ++ [c]) :
    fileName? path = c.name? := by
  rw [fileName?, h, List.getLast?_concat]
  rfl

/-! ## Paths below others -/

/-- A slash at the end of a path is no component. -/
theorem components_slash (path : OsText) :
    components (path ++ [slash]) = ofSplit (pieces path) := by
  rw [components_append_slash, show pieces [] = [[]] from rfl, ofSplit_concat (pieces_ne_nil path)]
  simp [isName]

theorem components_slash_name (path : OsText) (hname : IsComponent name) :
    components (path ++ slash :: name) = ofSplit (pieces path) ++ [.ofPiece name] := by
  rw [components_append_slash, pieces_single hname.noSlash, ofSplit_concat (pieces_ne_nil path),
    if_pos hname.isName]

/-- A name below a path is one more component. -/
theorem components_join {dir : OsText} (hdir : dir ≠ []) (hname : IsComponent name) :
    components (join dir name) = components dir ++ [.ofPiece name] := by
  rw [join, hname.isAbsolute, if_neg (by simp)]
  by_cases hend : endsInSlash dir = true
  · obtain ⟨front, rfl⟩ := List.getLast?_eq_some_iff.1 (by simpa [endsInSlash] using hend)
    rw [if_pos (.inr hend), components_slash, List.append_assoc, List.singleton_append,
      components_slash_name front hname]
  · rw [if_neg (by simp [hdir, hend]), components_slash_name dir hname, ← components_of_ne_nil hdir]

theorem components_join_nil {dir : OsText} (hdir : dir ≠ []) :
    components (join dir []) = components dir := by
  rw [join, if_neg (by simp [isAbsolute])]
  by_cases hend : dir = [] ∨ endsInSlash dir = true
  · rw [if_pos hend, List.append_nil]
  · rw [if_neg hend, components_slash, components_of_ne_nil hdir]

theorem ne_nil_of_components (h : components path ≠ []) : path ≠ [] := by
  rintro rfl
  exact h rfl

/-- Names below a path, one after the other, are so many components. -/
theorem components_foldl_join {dir : OsText} (hdir : components dir ≠ [])
    (h : ∀ n ∈ xs, IsComponent n) :
    components ((xs.map Component.ofPiece).foldl (fun made c => join made c.text) dir) =
      components dir ++ xs.map .ofPiece := by
  induction xs generalizing dir with
  | nil => simp
  | cons n ns ih =>
    rw [List.forall_mem_cons] at h
    have hjoin := components_join (ne_nil_of_components hdir) h.1
    rw [List.map_cons, List.foldl_cons, Component.text_ofPiece, ih (by simp [hjoin]) h.2, hjoin,
      List.append_assoc]
    rfl

/-- What an absolute path begins with, and what is put below it. -/
theorem components_absoluteStart {cwd : OsText} (hcwd : isAbsolute cwd = true) (hpath : path ≠ []) :
    components ((absoluteStart cwd path).2.foldl (fun made c => join made c.text)
        (absoluteStart cwd path).1) =
      .root :: ((if isAbsolute path then [] else names cwd) ++ names path).map .ofPiece := by
  have hnames : ∀ n ∈ names path, IsComponent n := fun n => isComponent_of_mem_names
  cases habsolute : isAbsolute path with
  | false =>
    have hstart : absoluteStart cwd path = (cwd, (names path).map .ofPiece) := by
      simp [absoluteStart, habsolute, dropHere_components hpath habsolute]
    have hroot := components_of_isAbsolute hcwd
    rw [hstart, components_foldl_join (by simp [hroot]) hnames, hroot]
    simp
  | true =>
    have hall := components_of_isAbsolute habsolute
    cases htwo : hasTwoSlashes path with
    | true =>
      have hstart : absoluteStart cwd path = ([slash, slash], (names path).map .ofPiece) := by
        simp [absoluteStart, habsolute, htwo, hall, dropHere]
      have hroot : components [slash, slash] = [.root] := by decide
      rw [hstart, components_foldl_join (by simp [hroot]) hnames, hroot]
      simp
    | false =>
      have hstart : absoluteStart cwd path = ([], .root :: (names path).map .ofPiece) := by
        simp [absoluteStart, habsolute, htwo, hall, dropHere]
      have hroot : components [slash] = [.root] := by decide
      -- The root takes the place of the empty path.
      have hjoin : join [] Component.root.text = [slash] := by decide
      rw [hstart, List.foldl_cons, hjoin, components_foldl_join (by simp [hroot]) hnames, hroot]
      simp

/-- **The absolute path** is the root, the names of the current directory if the path does not begin
at the root, and the names of the path. -/
theorem components_absolute {cwd : OsText} (hcwd : isAbsolute cwd = true) (hpath : path ≠ []) :
    ∃ whole, absolute cwd path = .ok whole ∧ components whole =
      .root :: ((if isAbsolute path then [] else names cwd) ++ names path).map .ofPiece := by
  have hcomponents := components_absoluteStart hcwd hpath
  cases hstart : absoluteStart cwd path with
  | mk start below =>
    rw [hstart] at hcomponents
    simp only [absolute, if_neg hpath, hstart]
    refine ⟨_, rfl, ?_⟩
    split
    · rw [components_join_nil (ne_nil_of_components (by simp [hcomponents])), hcomponents]
    · exact hcomponents

/-! ## Paths above others -/

theorem below?_append (base rest : List Component) : below? base (base ++ rest) = some rest := by
  induction base with
  | nil => rfl
  | cons b base ih => rw [List.cons_append, below?, if_pos rfl, ih]

theorem isPrefix_of_mem_ancestorsUpTo {fuel : Nat} {above : OsText}
    (h : above ∈ ancestorsUpTo fuel path) : components above <+: components path := by
  fun_induction ancestorsUpTo fuel path with
  | case1 path => exact List.mem_singleton.1 h ▸ List.prefix_rfl
  | case2 path _ _ => exact List.mem_singleton.1 h ▸ List.prefix_rfl
  | case3 path _ parent hparent ih =>
    obtain ⟨c, -, hcomponents⟩ := components_parent? hparent
    rcases List.mem_cons.1 h with rfl | h
    · exact List.prefix_rfl
    · exact (ih h).trans (hcomponents ▸ List.prefix_append _ _)

theorem stripPrefix?_ofNames {ys : List OsText} (h : ∀ n ∈ xs ++ ys, IsComponent n) :
    stripPrefix? (ofNames xs) (ofNames (xs ++ ys)) = some (ys.map .ofPiece) := by
  have hxs := components_ofNames fun n hn => h n (List.mem_append_left ys hn)
  rw [stripPrefix?, components_ofNames h, hxs, List.map_append, ← List.cons_append, below?_append]

/-- **A path lies below each of its parents.** -/
theorem exists_stripPrefix? {above : OsText} (h : above ∈ ancestors path) :
    ∃ below, components path = components above ++ below ∧
      stripPrefix? above path = some below := by
  obtain ⟨below, hbelow⟩ := isPrefix_of_mem_ancestorsUpTo h
  exact ⟨below, hbelow.symm, by rw [stripPrefix?, ← hbelow, below?_append]⟩

end

end Understudy.Files.Path
