import Understudy.Proofs.Extraction
import Understudy.Proofs.Go.Shapes

/-!
# Comments

Comments are named nodes and may stand between any two tokens, so every lookup in a tree can meet
one.
Lookups by role and by kind never find one. The target of a pointer is looked up by position: it is
the first named part, and that is a comment if one follows the star.

* `Node.withoutComments`: the tree with all comments deleted.
* `Node.childrenIn_withoutComments`, `Node.preorder_withoutComments`: lookups in the stripped tree.
* `Node.shape_withoutComments`, `methodsOf_withoutComments`: types and methods without comments.
* `extract_withoutComments`: extraction depends on comments only through pointers.
-/

set_option autoImplicit false

namespace Understudy

namespace Go

namespace Node

mutual

/-- The tree without its comments, at any depth. -/
def withoutComments : Node → Node
  | leaf r k t => leaf r k t
  | tree r k ps => tree r k (withoutCommentsOfAll ps)

/-- Neighbouring nodes without the comments among and in them. -/
def withoutCommentsOfAll : List Node → List Node
  | [] => []
  | n :: ns =>
    if n.isCode then n.withoutComments :: withoutCommentsOfAll ns else withoutCommentsOfAll ns

end

theorem withoutCommentsOfAll_eq (ps : List Node) :
    withoutCommentsOfAll ps = (ps.filter isCode).map withoutComments := by
  induction ps with
  | nil => rfl
  | cons p ps ih =>
    rw [withoutCommentsOfAll, ih, List.filter_cons]
    split <;> rfl

@[simp] theorem role_withoutComments (n : Node) : n.withoutComments.role = n.role := by
  cases n <;> rfl

@[simp] theorem kind_withoutComments (n : Node) : n.withoutComments.kind = n.kind := by
  cases n <;> rfl

theorem parts_withoutComments (n : Node) :
    n.withoutComments.parts = (n.parts.filter isCode).map withoutComments := by
  cases n with
  | leaf r k t => rfl
  | tree r k ps => exact withoutCommentsOfAll_eq ps

/-! ## Lookups -/

section
variable {n : Node}

/-- A token holds no comment. -/
theorem Formed.withoutComments_of_isToken (h : n.Formed) (hk : n.kind.isToken = true) :
    n.withoutComments = n := by
  obtain ⟨text, hn, _⟩ := h.leaf_of_isToken hk
  rw [hn]
  rfl

theorem filter_withoutComments {p : Node → Bool} {ns : List Node}
    (hp : ∀ m ∈ ns, p m.withoutComments = p m) :
    ((ns.filter isCode).map withoutComments).filter p =
      ((ns.filter p).filter isCode).map withoutComments := by
  rw [List.filter_map, List.filter_filter, List.filter_filter]
  congr 1
  apply List.filter_congr
  intro m hm
  rw [Function.comp_apply, hp m hm, Bool.and_comm]

/-- The named children of the stripped tree. -/
theorem named_withoutComments (n : Node) :
    n.withoutComments.named = (n.named.filter isCode).map withoutComments := by
  rw [named, parts_withoutComments]
  exact filter_withoutComments fun m _ => by rw [isNamed, kind_withoutComments]; rfl

/-- A selection that takes no comment selects the same from stripped nodes. -/
theorem select_withoutComments {p : Node → Bool} {ns : List Node}
    (hp : ∀ m ∈ ns, p m.withoutComments = p m) (hcode : ∀ m ∈ ns, p m = true → m.isCode = true) :
    ((ns.filter isCode).map withoutComments).filter p = (ns.filter p).map withoutComments := by
  rw [filter_withoutComments hp]
  congr 1
  apply List.filter_eq_self.2
  intro m hm
  obtain ⟨hm, hpass⟩ := List.mem_filter.1 hm
  exact hcode m hm hpass

theorem find?_withoutComments {p : Node → Bool} {ns : List Node}
    (hp : ∀ m ∈ ns, p m.withoutComments = p m) (hcode : ∀ m ∈ ns, p m = true → m.isCode = true) :
    ((ns.filter isCode).map withoutComments).find? p = (ns.find? p).map withoutComments := by
  rw [← List.head?_filter, select_withoutComments hp hcode, List.head?_map, List.head?_filter]

/-- The children in a role: none of them is a comment. -/
theorem childrenIn_withoutComments (h : n.Formed) (r : Role) :
    n.withoutComments.childrenIn r = (n.childrenIn r).map withoutComments := by
  rw [childrenIn, parts_withoutComments]
  refine select_withoutComments (by simp) fun m hm hr => ?_
  exact (h.part hm).isCode_of_role (beq_iff_eq.1 hr)

theorem child?_eq_head? (n : Node) (r : Role) : n.child? r = (n.childrenIn r).head? :=
  List.head?_filter.symm

theorem child?_withoutComments (h : n.Formed) (r : Role) :
    n.withoutComments.child? r = (n.child? r).map withoutComments := by
  rw [child?_eq_head?, childrenIn_withoutComments h, List.head?_map, ← child?_eq_head?]

/-- Names, packages and paths stay what they are. -/
theorem tokensIn_withoutComments (h : n.Formed) {r : Role}
    (hr : r = .name ∨ r = .package ∨ r = .path) :
    n.withoutComments.childrenIn r = n.childrenIn r := by
  rw [childrenIn_withoutComments h]
  conv_rhs => rw [← List.map_id (n.childrenIn r)]
  apply List.map_congr_left
  intro m hm
  obtain ⟨hm, hrole⟩ := List.mem_filter.1 hm
  have hfits := (h.part hm).fits
  rw [beq_iff_eq.1 hrole] at hfits
  exact (h.part hm).withoutComments_of_isToken (Kind.isToken_of_fits hr hfits)

theorem token?_withoutComments (h : n.Formed) {r : Role}
    (hr : r = .name ∨ r = .package ∨ r = .path) : n.withoutComments.child? r = n.child? r := by
  rw [child?_eq_head?, tokensIn_withoutComments h hr, ← child?_eq_head?]

theorem flatMap_filter_of_nil {α β : Type} {p : α → Bool} {f : α → List β} {xs : List α}
    (h : ∀ x ∈ xs, p x = false → f x = []) : (xs.filter p).flatMap f = xs.flatMap f := by
  induction xs with
  | nil => rfl
  | cons x xs ih =>
    have ih := ih fun y hy => h y (List.mem_cons_of_mem _ hy)
    cases hx : p x with
    | true => rw [List.filter_cons_of_pos hx, List.flatMap_cons, List.flatMap_cons, ih]
    | false =>
      rw [List.filter_cons_of_neg (by simp [hx]), List.flatMap_cons, ih, h x List.mem_cons_self hx,
        List.nil_append]

/-- The descendants of the stripped tree. -/
theorem preorder_withoutComments (h : n.Formed) (hn : n.isCode = true) :
    n.withoutComments.preorder = (n.preorder.filter isCode).map withoutComments := by
  induction n using Node.induct with
  | leaf r k t => simp [withoutComments, preorder, hn]
  | tree r k ps ih =>
    rw [preorder_eq, preorder_eq (tree r k ps), named_withoutComments, List.filter_cons_of_pos hn,
      List.map_cons, List.filter_flatMap, List.map_flatMap, List.flatMap_map]
    have hcomment : ∀ p ∈ (tree r k ps).named, p.isCode = false →
        (p.preorder.filter isCode).map withoutComments = [] := by
      intro p hp hcomment
      have hk : p.kind = .comment := by simpa [isCode] using hcomment
      obtain ⟨text, hleaf, _⟩ :=
        (h.part (mem_parts_of_named hp)).leaf_of_isToken (by rw [hk]; rfl)
      rw [hleaf, hk]
      rfl
    rw [← flatMap_filter_of_nil hcomment]
    congr 1
    apply List.flatMap_congr
    intro p hp
    obtain ⟨hp, hcode⟩ := List.mem_filter.1 hp
    have hmem := mem_parts_of_named hp
    exact ih p hmem (h.part hmem) hcode

/-- **Deleting comments keeps a tree formed**: nothing that a kind demands is a comment. -/
theorem Formed.withoutComments (h : n.Formed) : n.withoutComments.Formed := by
  induction h with
  | leaf hkind hrole htext => exact .leaf hkind hrole htext
  | @tree role kind parts hkind hrole hneeds hadmits hparts ih =>
    rw [Node.withoutComments, withoutCommentsOfAll_eq]
    refine .tree hkind hrole (fun test ht => ?_) (fun m hm => ?_) (fun m hm => ?_)
    · obtain ⟨m, hm, hpass⟩ := hneeds test ht
      have hcode : m.isCode = true := by
        cases hr : m.role with
        | some r => exact (hparts m hm).isCode_of_role hr
        | none =>
          refine decide_eq_true fun hk => ?_
          have hall : kind.needs.all (fun test => !test none .comment) = true := by
            cases kind <;> rfl
          have hfails := List.all_eq_true.1 hall test ht
          rw [hr, hk] at hpass
          simp [hpass] at hfails
      exact ⟨m.withoutComments, List.mem_map_of_mem (List.mem_filter.2 ⟨hm, hcode⟩),
        by simpa using hpass⟩
    · obtain ⟨p, hp, rfl⟩ := List.mem_map.1 hm
      rw [kind_withoutComments]
      exact hadmits p (List.mem_filter.1 hp).1
    · obtain ⟨p, hp, rfl⟩ := List.mem_map.1 hm
      exact ih p (List.mem_filter.1 hp).1

/-- A part-wise lookup that does not see comments gives the same in the stripped tree. -/
theorem filterMap_withoutComments {β : Type} {f : Node → Option β} {ns : List Node}
    (hcode : ∀ m ∈ ns, m.isCode = true → f m.withoutComments = f m)
    (hcomment : ∀ m ∈ ns, m.kind = .comment → f m = none) :
    ((ns.filter isCode).map Node.withoutComments).filterMap f = ns.filterMap f := by
  rw [List.filterMap_map, List.filterMap_filter]
  apply List.filterMap_congr
  intro m hm
  split
  · exact hcode m hm ‹_›
  · rename_i h
    exact (hcomment m hm (by simpa [isCode] using h)).symm

end

end Node

/-! ## Declarations and imports -/

section
variable {n file : Node}

theorem declaresType_withoutComments (h : n.Formed) (name : String) :
    declaresType name n.withoutComments = declaresType name n := by
  rw [declaresType, declaresType, Node.kind_withoutComments,
    Node.token?_withoutComments h (.inl rfl)]

theorem clauseName_withoutComments (h : n.Formed) :
    clauseName n.withoutComments = clauseName n := by
  rw [clauseName, clauseName, Node.named_withoutComments,
    Node.find?_withoutComments (by simp) (by simp +contextual [Node.isCode])]
  cases hfind : n.named.find? (fun m => m.kind = .packageIdentifier) with
  | none => rfl
  | some ident =>
    have hmem := Node.mem_parts_of_named (List.mem_of_find?_eq_some hfind)
    have hk : ident.kind = .packageIdentifier := by simpa using List.find?_some hfind
    rw [Option.map_some, (h.part hmem).withoutComments_of_isToken (by rw [hk]; rfl)]

/-- The package of the stripped file. -/
theorem packageName_withoutComments (h : file.Formed) :
    packageName file.withoutComments = packageName file := by
  rw [packageName, packageName, Node.parts_withoutComments,
    Node.find?_withoutComments (by simp) (by simp +contextual [Node.isCode])]
  cases hfind : file.parts.find? (fun m => m.kind = .packageClause) with
  | none => rfl
  | some clause => exact clauseName_withoutComments (h.part (List.mem_of_find?_eq_some hfind))

/-- The declaration that is found in the stripped file. -/
theorem findType_withoutComments (h : file.Formed) (hk : file.isCode = true) (name : String) :
    findType name file.withoutComments = (findType name file).map Node.withoutComments := by
  rw [findType, findType, Node.preorder_withoutComments h hk]
  refine Node.find?_withoutComments
    (fun m hm => declaresType_withoutComments (h.preorder hm) name) ?_
  intro m _ hdecl
  obtain ⟨hkind | hkind, _⟩ := declaresType_iff.1 hdecl <;> simp [Node.isCode, hkind]

theorem importOf_withoutComments (h : n.Formed) : importOf n.withoutComments = importOf n := by
  rw [importOf, importOf, Node.token?_withoutComments h (.inl rfl),
    Node.token?_withoutComments h (.inr (.inr rfl))]

theorem importsOf_withoutComments {specs : List Node} (h : ∀ spec ∈ specs, spec.Formed) :
    importsOf (specs.map Node.withoutComments) = importsOf specs := by
  induction specs with
  | nil => rfl
  | cons spec specs ih =>
    rw [List.map_cons, importsOf, importsOf, importOf_withoutComments (h spec List.mem_cons_self),
      ih fun s hs => h s (List.mem_cons_of_mem _ hs)]

/-- The imports of the stripped file. -/
theorem imports_withoutComments (h : file.Formed) (hk : file.kind = .sourceFile) :
    imports file.withoutComments = imports file := by
  have hselect : importSpecs file.withoutComments =
      (importSpecs file).map Node.withoutComments := by
    rw [importSpecs_eq h.withoutComments (by simpa using hk), importSpecs_eq h hk,
      Node.preorder_withoutComments h (by simp [Node.isCode, hk])]
    exact Node.select_withoutComments (by simp [Node.isImport])
      (by simp +contextual [Node.isImport, Node.isCode])
  rw [imports, imports, hselect]
  refine importsOf_withoutComments fun spec hspec => ?_
  rw [importSpecs_eq h hk] at hspec
  exact h.preorder (List.mem_filter.1 hspec).1

/-! ## Types and methods -/

/-- A named part of a stripped node is a stripped part, and no comment. -/
theorem Node.mem_named_withoutComments {m : Node} (hm : m ∈ n.withoutComments.named) :
    ∃ p ∈ n.named, p.isCode = true ∧ m = p.withoutComments := by
  rw [Node.named_withoutComments] at hm
  obtain ⟨p, hp, rfl⟩ := List.mem_map.1 hm
  exact ⟨p, (List.mem_filter.1 hp).1, (List.mem_filter.1 hp).2, rfl⟩

/-- In a stripped tree no pointer has a comment before its target. -/
theorem Node.not_hasCommentedPointer (h : n.Formed) : ¬ n.withoutComments.HasCommentedPointer := by
  intro hc
  generalize hstripped : n.withoutComments = stripped at hc
  induction hc generalizing n with
  | here hk hc hcomment =>
    subst hstripped
    obtain ⟨p, _, hcode, rfl⟩ := Node.mem_named_withoutComments (List.mem_of_head? hc)
    simp [isCode, ← hcomment] at hcode
  | element hk he _ ih =>
    subst hstripped
    rw [Node.child?_withoutComments h] at he
    obtain ⟨e, hchild, rfl⟩ := Option.map_eq_some_iff.1 he
    exact ih (h.child? hchild) rfl
  | target hk ht _ ih =>
    subst hstripped
    obtain ⟨p, hp, _, rfl⟩ := Node.mem_named_withoutComments (List.mem_of_head? ht)
    exact ih (h.part (mem_parts_of_named hp)) rfl

theorem Node.HasShape.withoutComments {s : TypeShape} (hs : n.HasShape s) (h : n.Formed)
    (hc : ¬ n.HasCommentedPointer) : n.withoutComments.HasShape s := by
  induction hs with
  | name hk =>
    rw [h.withoutComments_of_isToken (by rw [hk]; rfl)]
    exact .name hk
  | qualified hk hp hn =>
    rw [← Node.token?_withoutComments h (.inr (.inl rfl))] at hp
    rw [← Node.token?_withoutComments h (.inl rfl)] at hn
    exact .qualified (by simpa using hk) hp hn
  | element hk he _ ih =>
    refine .element (by simpa using hk) ?_ (ih (h.child? he) fun hc' => hc (.element hk he hc'))
    rw [Node.child?_withoutComments h, he, Option.map_some]
  | @target n t _ hk ht _ ih =>
    have hcode : t.isCode = true := decide_eq_true fun hcomment => hc (.here hk ht hcomment)
    have htarget := ih (h.part (mem_parts_of_named (List.mem_of_head? ht)))
      fun hc' => hc (.target hk ht hc')
    refine .target (by simpa using hk) ?_ htarget
    obtain ⟨ts, hnamed⟩ := List.head?_eq_some_iff.1 ht
    rw [Node.named_withoutComments, hnamed, List.filter_cons_of_pos hcode, List.map_cons,
      List.head?_cons]
  | @other n hk =>
    have hother : n.withoutComments.HasShape (.unsupported n.withoutComments.kind) :=
      .other (by simpa using hk)
    rwa [Node.kind_withoutComments] at hother

/-- **The shape of a type does not depend on comments**, if no pointer has one before its target. -/
theorem Node.shape_withoutComments (h : n.Formed) (hc : ¬ n.HasCommentedPointer) :
    n.withoutComments.shape = n.shape :=
  (h.hasShape.withoutComments h hc).eq_shape

/-- The types of a stripped list. -/
theorem Node.listTypes_withoutComments (h : n.Formed) :
    n.withoutComments.listTypes = n.listTypes.map Node.withoutComments := by
  rw [listTypes, listTypes, kind_withoutComments]
  split
  · rw [named_withoutComments,
      select_withoutComments (by simp) (by simp +contextual [isCode]), List.filterMap_map,
      List.map_filterMap]
    apply List.filterMap_congr
    intro d hd
    exact child?_withoutComments (h.part (mem_parts_of_named (List.mem_filter.1 hd).1)) .type
  · rfl

theorem Node.signatureLists_withoutComments (h : n.Formed) :
    n.withoutComments.signatureLists = n.signatureLists.map Node.withoutComments := by
  have hchild : ∀ r, (n.withoutComments.child? r).toList =
      (n.child? r).toList.map Node.withoutComments := by
    intro r
    rw [child?_withoutComments h]
    cases n.child? r <;> rfl
  rw [signatureLists, signatureLists, List.map_append, hchild, hchild]

/-- The types of a stripped method. -/
theorem Node.signatureTypes_withoutComments (h : n.Formed) :
    n.withoutComments.signatureTypes = n.signatureTypes.map Node.withoutComments := by
  rw [signatureTypes, signatureTypes, signatureLists_withoutComments h, List.flatMap_map,
    List.map_flatMap]
  apply List.flatMap_congr
  intro list hl
  exact listTypes_withoutComments (h.signatureLists hl).1

theorem ofDeclaration?_withoutComments (h : n.Formed)
    (hc : n.kind = .parameterDeclaration → ∀ t, n.child? .type = some t → ¬ t.HasCommentedPointer) :
    Slot.ofDeclaration? n.withoutComments = Slot.ofDeclaration? n := by
  rw [Slot.ofDeclaration?, Slot.ofDeclaration?, Node.tokensIn_withoutComments h (.inl rfl),
    Node.kind_withoutComments, Node.child?_withoutComments h]
  split
  · rename_i hk
    cases ht : n.child? .type with
    | none => rfl
    | some t => simp only [Option.map_some, Node.shape_withoutComments (h.child? ht) (hc hk t ht)]
  · rfl
  · rfl

theorem ofList_withoutComments (h : n.Formed) (hc : ∀ t ∈ n.listTypes, ¬ t.HasCommentedPointer) :
    Slot.ofList n.withoutComments = Slot.ofList n := by
  rw [Slot.ofList, Slot.ofList, Node.kind_withoutComments]
  rw [Node.listTypes] at hc
  split
  · rename_i hk
    rw [if_pos hk] at hc
    rw [Node.named_withoutComments, Node.filterMap_withoutComments]
    · intro d hd _
      refine ofDeclaration?_withoutComments (h.part (Node.mem_parts_of_named hd)) fun hdk t ht => ?_
      exact hc t (List.mem_filterMap.2 ⟨d, List.mem_filter.2 ⟨hd, decide_eq_true hdk⟩, ht⟩)
    · intro d _ hdk
      rw [Slot.ofDeclaration?, hdk]
  · rename_i hk
    rw [if_neg hk] at hc
    rw [Node.shape_withoutComments h (hc n (List.mem_singleton_self n))]

theorem methodOf?_withoutComments (package : String) (h : n.Formed)
    (hc : ∀ t ∈ n.signatureTypes, ¬ t.HasCommentedPointer) :
    methodOf? package n.withoutComments = methodOf? package n := by
  have hlist : ∀ r, (n.child? r).toList ⊆ n.signatureLists →
      Slot.ofList? (n.withoutComments.child? r) = Slot.ofList? (n.child? r) := by
    intro r hr
    rw [Node.child?_withoutComments h]
    cases hm : n.child? r with
    | none => rfl
    | some m =>
      have hmem : m ∈ n.signatureLists := hr (by rw [hm]; exact List.mem_singleton_self m)
      exact ofList_withoutComments (h.child? hm) fun t ht => hc t (List.mem_flatMap.2 ⟨m, hmem, ht⟩)
  rw [methodOf?, methodOf?, Node.token?_withoutComments h (.inl rfl),
    hlist .parameters (List.subset_append_left _ _), hlist .result (List.subset_append_right _ _)]

theorem methodNodes_withoutComments (h : n.Formed) :
    methodNodes n.withoutComments = (methodNodes n).map Node.withoutComments := by
  rw [methodNodes, methodNodes, Node.child?_withoutComments h]
  cases n.child? .type with
  | none => rfl
  | some body =>
    simp only [Option.map_some, Node.kind_withoutComments]
    split
    · rw [Node.named_withoutComments]
      exact Node.select_withoutComments (by simp) (by simp +contextual [Node.isCode])
    · rfl

/-- The text is that of a type with the sentinel of a comment. -/
def HasCommentText (package text : String) : Prop :=
  ∃ s : TypeShape, s.unsupported? = some .comment ∧ text = qualify package s.text

theorem HasCommentText.unsupported? {package : String} {s : TypeShape}
    (h : HasCommentText package (qualify package s.text))
    (hp : ∀ c ∈ package.toList, isAngle c = false) (hs : s.IsPlain) :
    s.unsupported? = some .comment := by
  obtain ⟨s', hs', htext⟩ := h
  refine TypeShape.unsupported?_of_text_eq hp hs ?_ hs'
  rw [← toList_qualify, ← toList_qualify, htext]

/-- **The methods of a declared type do not depend on comments** exactly if no pointer in them has
one before its target. -/
theorem methodsOf_withoutComments {package : String} (hp : ∀ c ∈ package.toList, isAngle c = false)
    (h : n.Formed) : methodsOf package n.withoutComments = methodsOf package n ↔
      ∀ method ∈ methodNodes n, ∀ t ∈ method.signatureTypes, ¬ t.HasCommentedPointer := by
  constructor
  · intro heq method hm t ht hc
    obtain ⟨htformed, htcode⟩ := (methodNodes_formed h hm).1.signatureTypes ht
    -- The text of some field has the sentinel of a comment, so one of the stripped fields has it
    -- too.
    have hslot : ∃ s ∈ method.slots, HasCommentText package (s.typeText package) := by
      obtain ⟨s, hs, hshape⟩ := (exists_slot_iff
        (P := fun shape => shape.unsupported? = some .comment) (methodNodes_formed h hm).1).2
        (.inl ⟨t, ht, (Node.unsupported?_eq_comment htformed htcode).2 hc⟩)
      exact ⟨s, hs, s.shape, hshape, rfl⟩
    have hfield := (exists_field_iff h).2 ⟨method, hm, hslot⟩
    rw [← heq, exists_field_iff h.withoutComments, methodNodes_withoutComments h] at hfield
    obtain ⟨_, hmap, s, hs, htext⟩ := hfield
    obtain ⟨method', hm', rfl⟩ := List.mem_map.1 hmap
    have hformed := (methodNodes_formed h hm').1
    rcases (exists_slot_iff (P := fun shape => HasCommentText package (qualify package shape.text))
      hformed.withoutComments).1 ⟨s, hs, htext⟩ with ⟨t', ht', htext⟩ | ⟨_, htext⟩
    · rw [Node.signatureTypes_withoutComments hformed] at ht'
      obtain ⟨u, hu, rfl⟩ := List.mem_map.1 ht'
      obtain ⟨huformed, hucode⟩ := hformed.signatureTypes hu
      have hcomment := htext.unsupported? hp huformed.withoutComments.isPlain
      have hcode : u.withoutComments.isCode = true := by simpa [Node.isCode] using hucode
      exact Node.not_hasCommentedPointer huformed
        ((Node.unsupported?_eq_comment huformed.withoutComments hcode).1 hcomment)
    · have hcomment := htext.unsupported? hp trivial
      cases hcomment
  · intro hc
    rw [methodsOf_eq, methodsOf_eq, methodNodes_withoutComments h, List.filterMap_map]
    apply List.filterMap_congr
    intro method hm
    exact methodOf?_withoutComments package (methodNodes_formed h hm).1 (hc method hm)

end

end Go

open Go
open Text (braced)

/-- **When comments change what is extracted.** Deleting all comments of a parsed file, at any
depth, leaves the same description or the same failure, unless extraction succeeds and some type in
the signatures of the interface has, among its slices, arrays and pointers, a pointer with a
comment before its target. -/
theorem extract_withoutComments {source : String} {file : Node}
    (hparse : parse source = some file) :
    (extract file.withoutComments).outcome = (extract file).outcome ↔
      ∀ mock spec, (extract file).outcome = .ok mock → findType targetName file = some spec →
        ∀ method ∈ methodNodes spec, ∀ t ∈ method.signatureTypes, ¬ t.HasCommentedPointer := by
  have hformed := parse_formed hparse
  have hkind := kind_of_parse hparse
  have hcode : file.isCode = true := by simp [Node.isCode, hkind]
  have himports : importsIn file.withoutComments = importsIn file := by
    rw [importsIn, importsIn, imports_withoutComments hformed hkind]
  rw [extract_eq, extract_eq, packageName_withoutComments hformed,
    findType_withoutComments hformed hcode, himports]
  cases hpackage : packageName file with
  | none => simp
  | some package =>
    cases hspec : findType targetName file with
    | none => simp
    | some spec =>
      cases importsIn file with
      | error e => simp
      | ok is =>
        have hspecFormed := hformed.preorder (List.mem_of_find?_eq_some hspec)
        have hplain := packageName_not_isAngle hformed hpackage
        have hmethods := methodsOf_withoutComments hplain hspecFormed
        simpa using hmethods

/-- A source with comments at every depth, none of them before the target of a pointer. -/
def commentedSource : String :=
  "package p // a\n\nimport (\n\t\"q\" // b\n)\n\ntype Querier interface " ++
  braced "\n\t// c\n\tGet(/* d */ id []/* e */T) *T\n" ++ "\n"

/-- The comments of the source are deleted without a change to what is extracted. -/
theorem commentedSource_extract : ∃ file, parse commentedSource = some file ∧
    (file.preorder.filter fun n => n.kind = .comment).length = 5 ∧
    (extract file.withoutComments).outcome = (extract file).outcome := by
  have hread : (parse commentedSource).any (fun file =>
      (file.preorder.filter fun n => n.kind = .comment).length = 5 &&
      (findType targetName file).all fun spec => (methodNodes spec).all fun method =>
        method.signatureTypes.all fun t => t.shape.unsupported? ≠ some .comment) = true := by
    decide +kernel
  obtain ⟨file, hparse, hread⟩ := (Option.any_eq_true _ _).1 hread
  obtain ⟨hcount, htypes⟩ := Bool.and_eq_true_iff.1 hread
  refine ⟨file, hparse, of_decide_eq_true hcount, (extract_withoutComments hparse).2 ?_⟩
  intro _ spec _ hspec method hm t ht hc
  have hformed := (parse_formed hparse).preorder (List.mem_of_find?_eq_some hspec)
  obtain ⟨htformed, htcode⟩ := (methodNodes_formed hformed hm).1.signatureTypes ht
  rw [hspec, Option.all_some, List.all_eq_true] at htypes
  have htype := List.all_eq_true.1 (htypes method hm) t ht
  exact of_decide_eq_true htype ((Node.unsupported?_eq_comment htformed htcode).2 hc)

/-- A source with a comment between the star of a pointer and its target. -/
def pointerCommentSource : String :=
  "package p\n\ntype Querier interface " ++ braced "\n\tGet() */* c */T\n" ++ "\n"

/-- **A comment after the star of a pointer is taken for its target.** -/
theorem pointerComment_extract : ∃ file, parse pointerCommentSource = some file ∧
    (extract file).outcome.toOption.map Mock.methods =
      some [⟨"Get", [], [⟨"", "*<error_unhandled_comment>"⟩]⟩] ∧
    (extract file.withoutComments).outcome.toOption.map Mock.methods =
      some [⟨"Get", [], [⟨"", "*p.T"⟩]⟩] := by
  have hmethods : (parse pointerCommentSource).map (fun file =>
      ((extract file).outcome.toOption.map Mock.methods,
        (extract file.withoutComments).outcome.toOption.map Mock.methods)) =
      some (some [⟨"Get", [], [⟨"", "*<error_unhandled_comment>"⟩]⟩],
        some [⟨"Get", [], [⟨"", "*p.T"⟩]⟩]) := by decide +kernel
  obtain ⟨file, hparse, hmethods⟩ := Option.map_eq_some_iff.1 hmethods
  exact ⟨file, hparse, (Prod.mk.inj hmethods).1, (Prod.mk.inj hmethods).2⟩

end Understudy
