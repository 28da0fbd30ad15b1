import Understudy.Proofs.Go.Trees

/-!
# Shapes of types, and where they stand

The shape of a type looks at one part of it: the element of a slice or an array, the first named
part of a pointer. What can be named at the end of that chain is a name, and its text holds no angle
bracket; so the sentinel of a type that cannot be named is recognised in the text.

* `Node.shape_eq`: the shape of a type from the shape of that part.
* `Node.IsNameable`, `Node.HasCommentedPointer`: what a type is below slices, arrays and pointers.
* `TypeShape.unsupported?_of_text_eq`: the text of a type says whether a sentinel is in it.
* `methodNodes`, `Node.signatureTypes`: the methods of a declared type, and the types in them.
* `methodsOf_eq`, `exists_field_iff`, `exists_slot_iff`: what is extracted comes from them.
-/

set_option autoImplicit false

namespace Understudy.Go

/-! ## The shape of a type -/

theorem elementShape_eq (ps : List Node) :
    elementShape ps = (ps.find? fun p => p.role == some .element).map Node.shape := by
  induction ps with
  | nil => rfl
  | cons p ps ih =>
    rw [elementShape, ih, List.find?_cons]
    cases hp : p.role == some .element <;> rfl

theorem targetShape_eq (ps : List Node) :
    targetShape ps = (ps.filter Node.isNamed).head?.map Node.shape := by
  induction ps with
  | nil => rfl
  | cons p ps ih =>
    rw [targetShape, ih, List.filter_cons]
    split <;> rfl

namespace Node

/-- **The shape of a type**, from the shape of the part that its kind looks at. -/
theorem shape_eq (n : Node) : n.shape =
    match n.kind with
    | .typeIdentifier => .named n.text
    | .qualifiedType => qualifiedShape n
    | .sliceType | .arrayType =>
      (n.child? .element).elim (.unsupported n.kind) fun e => .slice e.shape
    | .pointerType => n.named.head?.elim (.unsupported n.kind) fun t => .pointer t.shape
    | kind => .unsupported kind := by
  cases n with
  | leaf r k t => cases k <;> rfl
  | tree r k ps =>
    have helement : elementShape ps = ((tree r k ps).child? .element).map shape :=
      elementShape_eq ps
    have htarget : targetShape ps = (tree r k ps).named.head?.map shape := targetShape_eq ps
    cases k with
    | sliceType | arrayType =>
      simp only [shape, helement]
      cases (tree r _ ps).child? .element <;> rfl
    | pointerType =>
      simp only [shape, htarget]
      cases (tree r _ ps).named.head? <;> rfl
    | _ => rfl

/-- Whether the node is no comment. -/
def isCode (n : Node) : Bool := n.kind ≠ .comment

/-- The type that a pointer points to: its first named part that is no comment. -/
def target? (n : Node) : Option Node := n.named.find? isCode

/-- Below its slices, arrays and pointers the type is a name, with or without a package. -/
inductive IsNameable : Node → Prop
  | name {n : Node} (hk : n.kind = .typeIdentifier) : IsNameable n
  | qualified {n : Node} (hk : n.kind = .qualifiedType) : IsNameable n
  | element {n e : Node} (hk : n.kind = .sliceType ∨ n.kind = .arrayType)
    (he : n.child? .element = some e) (h : IsNameable e) : IsNameable n
  | target {n t : Node} (hk : n.kind = .pointerType) (ht : n.target? = some t) (h : IsNameable t) :
    IsNameable n

/-- Among the slices, arrays and pointers of the type is a pointer with a comment before its
target. -/
inductive HasCommentedPointer : Node → Prop
  | here {n c : Node} (hk : n.kind = .pointerType) (hc : n.named.head? = some c)
    (hcomment : c.kind = .comment) : HasCommentedPointer n
  | element {n e : Node} (hk : n.kind = .sliceType ∨ n.kind = .arrayType)
    (he : n.child? .element = some e) (h : HasCommentedPointer e) : HasCommentedPointer n
  | target {n t : Node} (hk : n.kind = .pointerType) (ht : n.named.head? = some t)
    (h : HasCommentedPointer t) : HasCommentedPointer n

/-- The type has the shape: one rule for each kind that a mock can name, and one for all others. -/
inductive HasShape : Node → TypeShape → Prop
  | name {n : Node} (hk : n.kind = .typeIdentifier) : HasShape n (.named n.text)
  | qualified {n package name : Node} (hk : n.kind = .qualifiedType)
    (hp : n.child? .package = some package) (hn : n.child? .name = some name) :
    HasShape n (.named (package.text ++ "." ++ name.text))
  | element {n e : Node} {s : TypeShape} (hk : n.kind = .sliceType ∨ n.kind = .arrayType)
    (he : n.child? .element = some e) (h : HasShape e s) : HasShape n (.slice s)
  | target {n t : Node} {s : TypeShape} (hk : n.kind = .pointerType) (ht : n.named.head? = some t)
    (h : HasShape t s) : HasShape n (.pointer s)
  | other {n : Node}
    (hk : n.kind ∉ [.typeIdentifier, .qualifiedType, .sliceType, .arrayType, .pointerType]) :
    HasShape n (.unsupported n.kind)

section
variable {n : Node}

/-- What has a role is named, and no comment. -/
theorem Formed.isNamed_of_role (h : n.Formed) {r : Role} (hr : n.role = some r) :
    n.isNamed = true := by
  have hfits := h.fits
  rw [hr] at hfits
  exact (Kind.isNamed_of_fits hfits).1

theorem Formed.isCode_of_role (h : n.Formed) {r : Role} (hr : n.role = some r) :
    n.isCode = true := by
  have hfits := h.fits
  rw [hr] at hfits
  exact decide_eq_true (Kind.isNamed_of_fits hfits).2

theorem Formed.exists_element (h : n.Formed) (hk : n.kind = .sliceType ∨ n.kind = .arrayType) :
    ∃ e, n.child? .element = some e := by
  rcases hk with hk | hk
  · exact h.exists_child hk (.head _)
  · exact h.exists_child hk (.head _)

theorem shape_element {e : Node} (hk : n.kind = .sliceType ∨ n.kind = .arrayType)
    (he : n.child? .element = some e) : n.shape = .slice e.shape := by
  rcases hk with hk | hk <;> rw [shape_eq, hk, he] <;> rfl

theorem shape_target {t : Node} (hk : n.kind = .pointerType) (ht : n.named.head? = some t) :
    n.shape = .pointer t.shape := by
  rw [shape_eq, hk, ht]
  rfl

/-- The first named part of a pointer, comment or not. -/
theorem Formed.exists_head (h : n.Formed) (hk : n.kind = .pointerType) :
    ∃ t, n.named.head? = some t := by
  obtain ⟨m, hm, hkind⟩ := h.need hk (.head _)
  rw [Bool.and_eq_true] at hkind
  have hmem : m ∈ n.named := List.mem_filter.2 ⟨hm, hkind.1⟩
  cases hnamed : n.named with
  | nil => rw [hnamed] at hmem; cases hmem
  | cons t ts => exact ⟨t, rfl⟩

theorem target?_eq_head? {t : Node} (ht : n.named.head? = some t) (hcode : t.isCode = true) :
    n.target? = some t := by
  obtain ⟨ts, hnamed⟩ := List.head?_eq_some_iff.1 ht
  rw [target?, hnamed, List.find?_cons_of_pos hcode]

theorem HasShape.eq_shape {s : TypeShape} (h : n.HasShape s) : n.shape = s := by
  induction h with
  | name hk => rw [shape_eq, hk]
  | qualified hk hp hn =>
    rw [shape_eq, hk]
    simp only [qualifiedShape, hp, hn]
  | element hk he _ ih => rw [shape_element hk he, ih]
  | target hk ht _ ih => rw [shape_target hk ht, ih]
  | @other n hk =>
    rw [shape_eq]
    split <;> simp_all

theorem Formed.exists_shape_of_parts (h : n.Formed) (ih : ∀ p ∈ n.parts, ∃ s, p.HasShape s) :
    ∃ s, n.HasShape s := by
  by_cases hname : n.kind = .typeIdentifier
  · exact ⟨_, .name hname⟩
  by_cases hqualified : n.kind = .qualifiedType
  · obtain ⟨package, hp⟩ := h.exists_child hqualified (.head _)
    obtain ⟨name, hn⟩ := h.exists_child hqualified (.tail _ (.head _))
    exact ⟨_, .qualified hqualified hp hn⟩
  by_cases hslice : n.kind = .sliceType ∨ n.kind = .arrayType
  · obtain ⟨e, he⟩ := h.exists_element hslice
    obtain ⟨s, hs⟩ := ih e (child?_eq_some he).1
    exact ⟨_, .element hslice he hs⟩
  by_cases hpointer : n.kind = .pointerType
  · obtain ⟨t, ht⟩ := h.exists_head hpointer
    obtain ⟨s, hs⟩ := ih t (mem_parts_of_named (List.mem_of_head? ht))
    exact ⟨_, .target hpointer ht hs⟩
  · exact ⟨_, .other (by simp_all)⟩

/-- **Every type of a formed tree has its shape.** -/
theorem Formed.hasShape (h : n.Formed) : n.HasShape n.shape := by
  have hexists : ∃ s, n.HasShape s := by
    induction h with
    | leaf hkind hrole htext =>
      exact (Formed.leaf hkind hrole htext).exists_shape_of_parts (by simp [parts])
    | tree hkind hrole hneeds hadmits hparts ih =>
      exact (Formed.tree hkind hrole hneeds hadmits hparts).exists_shape_of_parts ih
  obtain ⟨s, hs⟩ := hexists
  rwa [hs.eq_shape]

theorem HasCommentedPointer.unsupported?_shape (hc : n.HasCommentedPointer) :
    n.shape.unsupported? = some .comment := by
  induction hc with
  | here hk hc hcomment =>
    rw [shape_target hk hc, shape_eq, hcomment]
    rfl
  | element hk he _ ih => rwa [shape_element hk he]
  | target hk ht _ ih => rwa [shape_target hk ht]

/-- **The sentinel of a comment** stands for a pointer with a comment before its target. -/
theorem unsupported?_eq_comment (h : n.Formed) (hn : n.isCode = true) :
    n.shape.unsupported? = some .comment ↔ n.HasCommentedPointer := by
  constructor
  · have hshape := h.hasShape
    generalize n.shape = s at hshape
    intro hs
    induction hshape with
    | name _ | qualified _ _ _ => cases hs
    | element hk he _ ih =>
      have hcode := (h.child? he).isCode_of_role (child?_eq_some he).2
      exact .element hk he (ih (h.child? he) hcode hs)
    | @target n t _ hk ht _ ih =>
      by_cases hcode : t.isCode = true
      · exact .target hk ht (ih (h.part (mem_parts_of_named (List.mem_of_head? ht))) hcode hs)
      · exact .here hk ht (by simpa [isCode] using hcode)
    | other _ => simp_all [TypeShape.unsupported?, isCode]
  · exact HasCommentedPointer.unsupported?_shape

theorem HasCommentedPointer.exists_comment (hc : n.HasCommentedPointer) (h : n.Formed) :
    ∃ m ∈ n.preorder, m.kind = .comment := by
  have hdeeper : ∀ {a b : Node}, b ∈ a.named → (∃ m ∈ b.preorder, m.kind = .comment) →
      ∃ m ∈ a.preorder, m.kind = .comment := by
    rintro a b hb ⟨m, hm, hk⟩
    refine ⟨m, ?_, hk⟩
    rw [preorder_eq]
    exact List.mem_cons_of_mem _ (List.mem_flatMap.2 ⟨b, hb, hm⟩)
  induction hc with
  | @here n c _ hc hcomment =>
    refine hdeeper (List.mem_of_head? hc) ⟨c, ?_, hcomment⟩
    rw [preorder_eq]
    exact List.mem_cons_self
  | element _ he _ ih =>
    obtain ⟨hmem, hrole⟩ := child?_eq_some he
    exact hdeeper (List.mem_filter.2 ⟨hmem, (h.part hmem).isNamed_of_role hrole⟩) (ih (h.part hmem))
  | target _ ht _ ih =>
    have hmem := List.mem_of_head? ht
    exact hdeeper hmem (ih (h.part (mem_parts_of_named hmem)))

/-- **A type has no sentinel** if and only if it can be named. -/
theorem unsupported?_eq_none (h : n.Formed) (hc : ¬ n.HasCommentedPointer) :
    n.shape.unsupported? = none ↔ n.IsNameable := by
  constructor
  · have hshape := h.hasShape
    generalize n.shape = s at hshape
    intro hs
    induction hshape with
    | name hk => exact .name hk
    | qualified hk _ _ => exact .qualified hk
    | element hk he _ ih =>
      exact .element hk he (ih (h.child? he) (fun h => hc (.element hk he h)) hs)
    | @target n t _ hk ht _ ih =>
      have hcode : t.isCode = true := by
        refine decide_eq_true fun hcomment => hc (.here hk ht hcomment)
      exact .target hk (target?_eq_head? ht hcode)
        (ih (h.part (mem_parts_of_named (List.mem_of_head? ht))) (fun h => hc (.target hk ht h)) hs)
    | other _ => cases hs
  · intro hname
    induction hname with
    | name hk =>
      rw [shape_eq, hk]
      rfl
    | qualified hk =>
      obtain ⟨package, hp⟩ := h.exists_child hk (.head _)
      obtain ⟨name, hn⟩ := h.exists_child hk (.tail _ (.head _))
      rw [(HasShape.qualified hk hp hn).eq_shape]
      rfl
    | element hk he _ ih =>
      rw [shape_element hk he]
      exact ih (h.child? he) fun h => hc (.element hk he h)
    | @target n t hk ht _ ih =>
      obtain ⟨first, hfirst⟩ := h.exists_head hk
      have hcode : first.isCode = true := by
        refine decide_eq_true fun hcomment => hc (.here hk hfirst hcomment)
      cases (target?_eq_head? hfirst hcode).symm.trans ht
      rw [shape_target hk hfirst]
      exact ih (h.part (mem_parts_of_named (List.mem_of_head? hfirst)))
        fun h => hc (.target hk hfirst h)

end

end Node

/-! ## The text of a type -/

/-- Whether the character is an angle bracket. -/
def isAngle (c : Char) : Bool := c = '<' || c = '>'

theorem not_isAngle_of {p : Char → Bool} (hp : p '<' = false ∧ p '>' = false) {c : Char}
    (hc : p c = true) : isAngle c = false := by
  by_contra h
  rcases Bool.or_eq_true_iff.1 (Bool.not_eq_false _ ▸ h) with h | h
  · rw [of_decide_eq_true h, hp.1] at hc
    cases hc
  · rw [of_decide_eq_true h, hp.2] at hc
    cases hc

/-- Names hold no angle brackets. -/
theorem not_isAngle_of_isIdentifier {text : String} (h : isIdentifier text = true) :
    ∀ c ∈ text.toList, isAngle c = false := by
  intro c hc
  rw [isIdentifier] at h
  split at h
  · cases h
  · rename_i d ds hcons
    rw [hcons] at hc
    rw [Bool.and_eq_true, List.all_eq_true] at h
    rcases List.mem_cons.1 hc with rfl | hc
    · exact not_isAngle_of (by decide +kernel) h.1
    · exact not_isAngle_of (by decide +kernel) (h.2 c hc)

/-- Names are written without angle brackets, a dot in the place of a name too. -/
theorem Node.Formed.not_isAngle {n : Node} (h : n.Formed)
    (hk : n.kind.isName = true ∨ n.kind = .dot) : ∀ c ∈ n.text.toList, isAngle c = false := by
  have htoken : n.kind.isToken = true := by
    rcases hk with hk | hk
    · cases hkind : n.kind <;> first | rfl | (rw [hkind] at hk; cases hk)
    · rw [hk]
      rfl
  obtain ⟨text, hn, hreads⟩ := h.leaf_of_isToken htoken
  rw [Kind.reads, Bool.and_eq_true] at hreads
  have htext : n.text = text := by rw [hn]; rfl
  rw [htext]
  rcases hk with hk | hk
  · rw [hk] at hreads
    exact not_isAngle_of_isIdentifier (by simpa using hreads.1)
  · have hdot : text = "." := by simpa [hk] using hreads.2
    simp [hdot, isAngle]

theorem Node.Formed.not_isAngle_of_role {n : Node} (h : n.Formed)
    (hr : n.role = some .name ∨ n.role = some .package) :
    ∀ c ∈ n.text.toList, isAngle c = false := by
  have hfits := h.fits
  apply h.not_isAngle
  rcases hr with hr | hr
  · simpa [hr, Kind.fits] using hfits
  · rw [hr] at hfits
    rw [eq_of_beq hfits]
    exact .inl rfl

namespace TypeShape

/-- The names in the shape hold no angle brackets. -/
def IsPlain : TypeShape → Prop
  | named t => ∀ c ∈ t.toList, isAngle c = false
  | slice e => e.IsPlain
  | pointer t => t.IsPlain
  | unsupported _ => True

variable {s s' : TypeShape} {kind : Kind}

/-- The characters that every sentinel begins with. -/
def sentinelStart : List Char := "<error_unhandled_".toList

theorem toList_sentinel (kind : Kind) : (sentinel kind).toList =
    '<' :: 'e' :: ("rror_unhandled_".toList ++ (kind.name.toList ++ ['>'])) := by
  unfold sentinel
  generalize kind.name = name
  simp only [String.toList_append, List.append_assoc]
  rfl

/-- **A sentinel stays what it is**: only wrappers stand before it, and no package is written in
it. -/
theorem exists_wrappers (package : List Char) (hs : s.unsupported? = some kind) :
    ∃ wrappers, qualifyChars package s.text.toList = wrappers ++ (sentinel kind).toList ∧
      ∀ c ∈ wrappers, isAngle c = false := by
  induction s with
  | named t => cases hs
  | slice e ih =>
    obtain ⟨wrappers, htext, hw⟩ := ih hs
    have hslice : (slice e).text.toList = '[' :: ']' :: e.text.toList := by simp [text]
    refine ⟨'[' :: ']' :: wrappers, ?_, ?_⟩
    · rw [hslice, qualifyChars_cons rfl, qualifyChars_cons rfl, htext]
      rfl
    · simpa [isAngle] using hw
  | pointer t ih =>
    obtain ⟨wrappers, htext, hw⟩ := ih hs
    have hpointer : (pointer t).text.toList = '*' :: t.text.toList := by simp [text]
    refine ⟨'*' :: wrappers, ?_, ?_⟩
    · rw [hpointer, qualifyChars_cons rfl, htext]
      rfl
    · simpa [isAngle] using hw
  | unsupported k =>
    cases hs
    refine ⟨[], ?_, by simp⟩
    rw [text, toList_sentinel, qualifyChars_cons rfl, qualifyChars_name rfl]
    rfl

variable {package : List Char}

theorem mem_qualifyChars {c : Char} {cs : List Char} (h : c ∈ qualifyChars package cs) :
    c ∈ package ∨ c = '.' ∨ c ∈ cs := by
  by_cases hchanged : qualifyChars package cs = cs
  · exact .inr (.inr (hchanged ▸ h))
  · obtain ⟨before, d, after, hscan, -, -, htext⟩ := exists_scansTo_of_changed hchanged
    rw [htext, List.mem_append, List.mem_append, List.mem_cons] at h
    rw [hscan.whole, List.mem_append]
    rcases h with (h | h) | rfl | h
    · exact .inr (.inr (.inl h))
    · exact .inl h
    · exact .inr (.inl rfl)
    · exact .inr (.inr (.inr h))

/-- A type that can be named is written without angle brackets. -/
theorem not_isAngle_of_named (hp : ∀ c ∈ package, isAngle c = false) (hplain : s.IsPlain)
    (hs : s.unsupported? = none) : ∀ c ∈ qualifyChars package s.text.toList, isAngle c = false := by
  induction s with
  | named t =>
    intro c hc
    rcases mem_qualifyChars hc with hc | rfl | hc
    · exact hp c hc
    · decide
    · exact hplain c hc
  | slice e ih =>
    have hslice : (slice e).text.toList = '[' :: ']' :: e.text.toList := by simp [text]
    rw [hslice, qualifyChars_cons rfl, qualifyChars_cons rfl]
    simpa [isAngle] using ih hplain hs
  | pointer t ih =>
    have hpointer : (pointer t).text.toList = '*' :: t.text.toList := by simp [text]
    rw [hpointer, qualifyChars_cons rfl]
    simpa [isAngle] using ih hplain hs
  | unsupported k => cases hs

/-- **Sentinels are seen in the text of a type, and nothing else looks like one.** -/
theorem sentinelStart_infix_iff (hp : ∀ c ∈ package, isAngle c = false) (hplain : s.IsPlain) :
    sentinelStart <:+: qualifyChars package s.text.toList ↔ s.unsupported? ≠ none := by
  constructor
  · intro hshown hs
    have hmem : '<' ∈ qualifyChars package s.text.toList := hshown.subset (by decide)
    exact absurd (not_isAngle_of_named hp hplain hs _ hmem) (by decide)
  · intro hs
    obtain ⟨kind, hkind⟩ := Option.ne_none_iff_exists'.1 hs
    obtain ⟨wrappers, htext, _⟩ := exists_wrappers package hkind
    refine ⟨wrappers, kind.name.toList ++ ['>'], ?_⟩
    rw [htext, toList_sentinel, List.append_assoc]
    rfl

theorem lt_mem_iff (hp : ∀ c ∈ package, isAngle c = false) (hplain : s.IsPlain) :
    '<' ∈ qualifyChars package s.text.toList ↔ s.unsupported? ≠ none := by
  constructor
  · intro hmem hs
    exact absurd (not_isAngle_of_named hp hplain hs _ hmem) (by decide)
  · intro hs
    exact ((sentinelStart_infix_iff hp hplain).2 hs).subset (by decide)

theorem sentinel_eq_comment (h : (sentinel kind).toList = (sentinel .comment).toList) :
    kind = .comment := by
  rw [toList_sentinel, toList_sentinel] at h
  have hname : kind.name = Kind.comment.name := by
    have htail := List.append_cancel_left (List.cons.inj (List.cons.inj h).2).2
    exact String.toList_inj.1 (List.append_cancel_right htail)
  revert hname
  cases kind <;> simp [Kind.name]

/-- The text of a type says whether it has the sentinel of a comment. -/
theorem unsupported?_of_text_eq (hp : ∀ c ∈ package, isAngle c = false) (hplain : s'.IsPlain)
    (heq : qualifyChars package s.text.toList = qualifyChars package s'.text.toList)
    (hs : s.unsupported? = some .comment) : s'.unsupported? = some .comment := by
  obtain ⟨wrappers, htext, hw⟩ := exists_wrappers package hs
  cases hs' : s'.unsupported? with
  | none =>
    have hmem : '<' ∈ qualifyChars package s'.text.toList := by
      rw [← heq, htext, toList_sentinel]
      simp
    exact absurd (not_isAngle_of_named hp hplain hs' _ hmem) (by decide)
  | some kind =>
    obtain ⟨wrappers', htext', hw'⟩ := exists_wrappers package hs'
    -- Both texts are cut at their first angle bracket, where the sentinels begin.
    have hcut : ∀ {ws : List Char} {k : Kind}, (∀ c ∈ ws, isAngle c = false) →
        (ws ++ (sentinel k).toList).dropWhile (fun c => !isAngle c) = (sentinel k).toList := by
      intro ws k hws
      rw [List.dropWhile_append_of_pos (by simpa using hws), toList_sentinel]
      rfl
    rw [htext, htext'] at heq
    have hsentinel := congrArg (List.dropWhile fun c => !isAngle c) heq
    rw [hcut hw, hcut hw'] at hsentinel
    rw [sentinel_eq_comment hsentinel.symm]

end TypeShape

/-- **The shapes of types in formed trees are plain**: their names are identifiers. -/
theorem Node.Formed.isPlain {n : Node} (h : n.Formed) : n.shape.IsPlain := by
  have hshape := h.hasShape
  generalize n.shape = s at hshape
  induction hshape with
  | name hk => exact h.not_isAngle (by rw [hk]; exact .inl rfl)
  | @qualified n package name hk hp hn =>
    have hpackage := (h.child? hp).not_isAngle_of_role (.inr (child?_eq_some hp).2)
    have hname := (h.child? hn).not_isAngle_of_role (.inl (child?_eq_some hn).2)
    intro c hc
    simp only [String.toList_append, List.mem_append] at hc
    rcases hc with (hc | hc) | hc
    · exact hpackage c hc
    · rw [List.mem_singleton.1 hc]
      rfl
    · exact hname c hc
  | element _ he _ ih => exact ih (h.child? he)
  | target _ ht _ ih => exact ih (h.part (mem_parts_of_named (List.mem_of_head? ht)))
  | other _ => trivial

/-- The name of a package holds no angle brackets. -/
theorem packageName_not_isAngle {file : Node} (h : file.Formed) {package : String}
    (hp : packageName file = some package) : ∀ c ∈ package.toList, isAngle c = false := by
  obtain ⟨clause, hclause, hname⟩ := Option.bind_eq_some_iff.1 hp
  obtain ⟨ident, hident, rfl⟩ := Option.map_eq_some_iff.1 hname
  have hformed := (h.part (List.mem_of_find?_eq_some hclause)).part
    (Node.mem_parts_of_named (List.mem_of_find?_eq_some hident))
  have hk : ident.kind = .packageIdentifier := by simpa using List.find?_some hident
  exact hformed.not_isAngle (by rw [hk]; exact .inl rfl)

/-! ## The methods of a declared type -/

/-- The methods that stand directly in the interface that a declared type is. -/
def methodNodes (spec : Node) : List Node :=
  match spec.child? .type with
  | none => []
  | some body =>
    if body.kind = .interfaceType then body.named.filter fun n => n.kind = .methodElem else []

/-- The method that a node declares in an interface of `package`. -/
def methodOf? (package : String) (n : Node) : Option Method :=
  (n.child? .name).map fun ident =>
    ⟨ident.text, fieldsOf package (Slot.ofList? (n.child? .parameters)),
      fieldsOf package (Slot.ofList? (n.child? .result))⟩

theorem method?_ofNode? (package : String) (n : Node) :
    (Element.ofNode? n).bind (Element.method? package) =
      if n.kind = .methodElem then methodOf? package n else none := by
  rw [Element.ofNode?]
  split
  · rename_i hk
    rw [if_pos hk, methodOf?]
    cases n.child? .name <;> rfl
  · rename_i hk
    rw [if_neg (by rw [hk]; decide)]
    rfl
  · rename_i hk _
    rw [if_neg hk]
    rfl

/-- **The methods of a declared type** come from the methods in its interface. -/
theorem methodsOf_eq (package : String) (spec : Node) :
    methodsOf package spec = (methodNodes spec).filterMap (methodOf? package) := by
  rw [methodsOf, bodyOf, methodNodes]
  cases spec.child? .type with
  | none => rfl
  | some body =>
    by_cases hk : body.kind = .interfaceType
    · simp only [if_pos hk, elementsOf, List.filterMap_filterMap, List.filterMap_filter,
        method?_ofNode?, decide_eq_true_eq]
    · simp only [if_neg hk, List.filterMap_nil]

/-! ## The types of a method -/

namespace Node

/-- The parameters and the result of a method. -/
def signatureLists (method : Node) : List Node :=
  (method.child? .parameters).toList ++ (method.child? .result).toList

/-- The types in a list of parameters or results, or the result itself if it is a bare type. -/
def listTypes (n : Node) : List Node :=
  if n.kind = .parameterList then
    (n.named.filter fun d => d.kind = .parameterDeclaration).filterMap (Node.child? .type)
  else [n]

/-- The types of the parameters and results of a method, variadic ones apart. -/
def signatureTypes (method : Node) : List Node := method.signatureLists.flatMap listTypes

/-- The method has a variadic parameter. -/
def IsVariadic (method : Node) : Prop :=
  ∃ list ∈ method.signatureLists, list.kind = .parameterList ∧
    ∃ d ∈ list.named, d.kind = .variadicParameterDeclaration

/-- The slots of the parameters and results of a method. -/
def slots (method : Node) : List Slot := method.signatureLists.flatMap Slot.ofList

end Node

section
variable {package : String} {spec method list : Node}

theorem methodNodes_formed (h : spec.Formed) (hm : method ∈ methodNodes spec) :
    method.Formed ∧ method.kind = .methodElem := by
  rw [methodNodes] at hm
  split at hm
  · cases hm
  · rename_i body hb
    split at hm
    · obtain ⟨hm, hk⟩ := List.mem_filter.1 hm
      exact ⟨(h.child? hb).part (Node.mem_parts_of_named hm), of_decide_eq_true hk⟩
    · cases hm

theorem Slot.exists_mem_fields (package : String) (s : Slot) {P : String → Prop} :
    (∃ f ∈ s.fields package, P f.type) ↔ P (s.typeText package) := by
  rw [Slot.fields, Slot.fieldsWith]
  split
  · simp
  · rename_i hne
    obtain ⟨name, names, hnames⟩ := List.exists_cons_of_ne_nil hne
    simp [hnames]

theorem exists_mem_fieldsOf {slots : List Slot} {P : String → Prop} :
    (∃ f ∈ fieldsOf package slots, P f.type) ↔ ∃ s ∈ slots, P (s.typeText package) := by
  simp only [fieldsOf, List.mem_flatMap, ← Slot.exists_mem_fields package]
  constructor
  · rintro ⟨f, ⟨s, hs, hf⟩, hP⟩
    exact ⟨s, hs, f, hf, hP⟩
  · rintro ⟨s, hs, f, hf, hP⟩
    exact ⟨f, ⟨s, hs, hf⟩, hP⟩

theorem fieldsOf_slots (package : String) (method : Node) :
    fieldsOf package (Slot.ofList? (method.child? .parameters)) ++
      fieldsOf package (Slot.ofList? (method.child? .result)) = fieldsOf package method.slots := by
  have hlist : ∀ o : Option Node, Slot.ofList? o = o.toList.flatMap Slot.ofList := by
    rintro (_ | n)
    · rfl
    · exact (List.append_nil _).symm
  rw [Node.slots, Node.signatureLists, List.flatMap_append, ← hlist, ← hlist, fieldsOf, fieldsOf,
    fieldsOf, List.flatMap_append]

/-- **The fields of a declared type** have the types of the slots of its methods. -/
theorem exists_field_iff (h : spec.Formed) {P : String → Prop} :
    (∃ m ∈ methodsOf package spec, ∃ f ∈ m.input ++ m.output, P f.type) ↔
      ∃ method ∈ methodNodes spec, ∃ s ∈ method.slots, P (s.typeText package) := by
  simp only [methodsOf_eq, List.mem_filterMap, ← exists_mem_fieldsOf, ← fieldsOf_slots]
  constructor
  · rintro ⟨m, ⟨method, hmethod, hm⟩, f, hf, hP⟩
    obtain ⟨ident, _, rfl⟩ := Option.map_eq_some_iff.1 hm
    exact ⟨method, hmethod, f, hf, hP⟩
  · rintro ⟨method, hmethod, f, hf, hP⟩
    obtain ⟨hformed, hk⟩ := methodNodes_formed h hmethod
    obtain ⟨ident, hident⟩ := hformed.exists_child hk (.head _)
    exact ⟨_, ⟨method, hmethod, Option.map_eq_some_iff.2 ⟨ident, hident, rfl⟩⟩, f, hf, hP⟩

/-- The slots of one list. -/
theorem exists_slot_ofList_iff (h : list.Formed) {P : TypeShape → Prop} :
    (∃ s ∈ Slot.ofList list, P s.shape) ↔ (∃ t ∈ list.listTypes, P t.shape) ∨
      (list.kind = .parameterList ∧ ∃ d ∈ list.named, d.kind = .variadicParameterDeclaration) ∧
        P (.unsupported .variadicParameterDeclaration) := by
  by_cases hk : list.kind = .parameterList
  · rw [Slot.ofList, if_pos hk, Node.listTypes, if_pos hk]
    simp only [List.mem_filterMap, List.mem_filter, hk, true_and]
    constructor
    · rintro ⟨s, ⟨d, hd, hs⟩, hP⟩
      rw [Slot.ofDeclaration?] at hs
      split at hs
      · rename_i hdk
        obtain ⟨t, ht⟩ := (h.part (Node.mem_parts_of_named hd)).exists_child hdk (.head _)
        rw [ht] at hs
        cases hs
        exact .inl ⟨t, ⟨d, ⟨hd, decide_eq_true hdk⟩, ht⟩, hP⟩
      · rename_i hdk
        cases hs
        exact .inr ⟨⟨d, hd, hdk⟩, hdk ▸ hP⟩
      · cases hs
    · rintro (⟨t, ⟨d, ⟨hd, hdk⟩, ht⟩, hP⟩ | ⟨⟨d, hd, hdk⟩, hP⟩)
      · refine ⟨⟨(d.childrenIn .name).map Node.text, t.shape⟩, ⟨d, hd, ?_⟩, hP⟩
        rw [Slot.ofDeclaration?, of_decide_eq_true hdk, ht]
      · refine ⟨⟨(d.childrenIn .name).map Node.text, .unsupported _⟩, ⟨d, hd, ?_⟩, hP⟩
        rw [Slot.ofDeclaration?, hdk]
  · simp [Slot.ofList, Node.listTypes, hk]

theorem Node.Formed.signatureLists (h : method.Formed) (hl : list ∈ method.signatureLists) :
    list.Formed ∧ list.isCode = true := by
  rcases List.mem_append.1 hl with hl | hl
  all_goals
    have hchild := Option.mem_toList.1 hl
    exact ⟨h.child? hchild, (h.child? hchild).isCode_of_role (Node.child?_eq_some hchild).2⟩

/-- **The slots of a method** have the shapes of its types, and one more for a variadic
parameter. -/
theorem exists_slot_iff (h : method.Formed) {P : TypeShape → Prop} :
    (∃ s ∈ method.slots, P s.shape) ↔ (∃ t ∈ method.signatureTypes, P t.shape) ∨
      method.IsVariadic ∧ P (.unsupported .variadicParameterDeclaration) := by
  simp only [Node.slots, Node.signatureTypes, Node.IsVariadic, List.mem_flatMap]
  constructor
  · rintro ⟨s, ⟨list, hl, hs⟩, hP⟩
    rcases (exists_slot_ofList_iff (h.signatureLists hl).1).1 ⟨s, hs, hP⟩ with
      ⟨t, ht, hP⟩ | ⟨hv, hP⟩
    · exact .inl ⟨t, ⟨list, hl, ht⟩, hP⟩
    · exact .inr ⟨⟨list, hl, hv⟩, hP⟩
  · rintro (⟨t, ⟨list, hl, ht⟩, hP⟩ | ⟨⟨list, hl, hv⟩, hP⟩)
    · obtain ⟨s, hs, hP⟩ := (exists_slot_ofList_iff (h.signatureLists hl).1).2 (.inl ⟨t, ht, hP⟩)
      exact ⟨s, ⟨list, hl, hs⟩, hP⟩
    · obtain ⟨s, hs, hP⟩ := (exists_slot_ofList_iff (h.signatureLists hl).1).2 (.inr ⟨hv, hP⟩)
      exact ⟨s, ⟨list, hl, hs⟩, hP⟩

/-- The types of a method are formed, and no comments. -/
theorem Node.Formed.signatureTypes (h : method.Formed) {t : Node} (ht : t ∈ method.signatureTypes) :
    t.Formed ∧ t.isCode = true := by
  obtain ⟨list, hl, ht⟩ := List.mem_flatMap.1 ht
  obtain ⟨hlist, hcode⟩ := h.signatureLists hl
  rw [Node.listTypes] at ht
  split at ht
  · obtain ⟨d, hd, hchild⟩ := List.mem_filterMap.1 ht
    have hdecl := hlist.part (Node.mem_parts_of_named (List.mem_filter.1 hd).1)
    exact ⟨hdecl.child? hchild, (hdecl.child? hchild).isCode_of_role (Node.child?_eq_some hchild).2⟩
  · rw [List.mem_singleton.1 ht]
    exact ⟨hlist, hcode⟩

end

end Understudy.Go
