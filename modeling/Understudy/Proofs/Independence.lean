import Mathlib.Data.List.Forall2
import Understudy.Proofs.Go.Comments

/-!
# What extraction depends on

Extraction sees three things of a file: the name of the package, the import specifications in their
order, and the first declaration of the interface. How the imports are grouped, what else is
declared and what is declared under the same name later does not show.

* `first?_filter`: nodes without a declaration of the type do not matter to the search for it.
* `Node.Imports.specs`: what an import declaration contributes, alone or as a group.
* `GrowsAfter.first?_eq`: nor do nodes that are added behind a declaration of the type.
-/

set_option autoImplicit false

namespace Understudy

open Go
open Text (braced)

namespace Go

/-! ## Nodes without a declaration -/

/-- Whether a type of the name is declared in the node, by the node itself or at any depth. -/
def Node.holdsType (name : String) (n : Node) : Bool := n.preorder.any (declaresType name)

/-- The first declaration of a type of the name among neighbouring nodes, at any depth. -/
def first? (name : String) (ns : List Node) : Option Node :=
  (Node.preorderOfAll ns).find? (declaresType name)

section
variable {name : String} {n : Node} {ns ms ps qs items : List Node} {r : Option Role} {k : Kind}

theorem Node.holdsType_leaf (t : String) : (leaf r k t).holdsType name = false := by
  simp [holdsType, preorder, declaresType, child?, parts]

theorem Node.holdsType_eq_false (hself : declaresType name n = false)
    (hparts : ∀ p ∈ n.parts, p.holdsType name = false) : n.holdsType name = false := by
  rw [holdsType, preorder_eq, List.any_cons, hself, Bool.false_or, List.any_flatMap,
    List.any_eq_false]
  intro p hp hany
  rw [← holdsType, hparts p (mem_parts_of_named hp)] at hany
  cases hany

theorem declaresType_eq_false (h : ¬ n.Declares name) : declaresType name n = false := by
  rw [← Bool.not_eq_true, declaresType_iff]
  exact h

theorem first?_cons (n : Node) (ns : List Node) :
    first? name (n :: ns) = (first? name [n]).or (first? name ns) := by
  rw [first?, first?, first?, ← List.find?_append, Node.preorderOfAll_eq, Node.preorderOfAll_eq,
    Node.preorderOfAll_eq, ← List.flatMap_append, ← List.filter_append, List.singleton_append]

theorem first?_of_holdsType (h : n.holdsType name = false) : first? name [n] = none := by
  rw [first?, List.find?_eq_none]
  intro m hm hdecl
  rw [Node.preorderOfAll_eq, List.mem_flatMap] at hm
  obtain ⟨p, hp, hm⟩ := hm
  obtain rfl := List.mem_singleton.1 (List.mem_filter.1 hp).1
  rw [Node.holdsType, List.any_eq_false] at h
  exact h m hm hdecl

/-- **Nodes without a declaration of the type** can be left out of the search for it. -/
theorem first?_filter {keep : Node → Bool}
    (h : ∀ n ∈ ns, keep n = false → n.holdsType name = false) :
    first? name (ns.filter keep) = first? name ns := by
  induction ns with
  | nil => rfl
  | cons n ns ih =>
    have ih := ih fun m hm => h m (List.mem_cons_of_mem _ hm)
    cases hkeep : keep n with
    | true => rw [List.filter_cons_of_pos hkeep, first?_cons, ih, ← first?_cons]
    | false =>
      have hnone := first?_of_holdsType (h n List.mem_cons_self hkeep)
      rw [List.filter_cons_of_neg (by simp [hkeep]), first?_cons, hnone, Option.none_or, ih]

theorem findType_eq_first? : findType name (.tree r .sourceFile items) = first? name items := by
  rw [findType, Node.preorder, List.find?_cons_of_neg (by simp [declaresType])]
  rfl

/-! ## Import declarations -/

/-- Whether the node is punctuation, a keyword, a blank or a comment. -/
def Node.isFiller : Node → Bool
  | leaf _ kind _ => !kind.isNamed || kind == .comment
  | tree _ _ _ => false

/-- Whether the node is an import declaration. -/
def Node.isImports (n : Node) : Bool := n.kind = .importDeclaration

/-- Neighbouring nodes without punctuation, keywords, blanks and comments. -/
def contents (ns : List Node) : List Node := ns.filter fun n => !n.isFiller

/-- An import declaration with the given specifications: one by itself, or any number of them in
parentheses. -/
inductive Node.Imports : Node → List Node → Prop
  | single {role : Option Role} {parts : List Node} {spec : Node}
    (hparts : contents parts = [spec]) (hspec : spec.isImport = true) :
    Imports (.tree role .importDeclaration parts) [spec]
  | group {role role' : Option Role} {parts inner specs : List Node}
    (hparts : contents parts = [.tree role' .importSpecList inner])
    (hinner : contents inner = specs) (hspecs : ∀ spec ∈ specs, spec.isImport = true) :
    Imports (.tree role .importDeclaration parts) specs

theorem Node.not_isFiller (hnamed : n.kind.isNamed = true) (hcode : n.kind ≠ .comment) :
    n.isFiller = false := by
  cases n with
  | leaf r k t =>
    rw [kind_leaf] at hnamed hcode
    simp [isFiller, hnamed, hcode]
  | tree r k ps => rfl

theorem Node.holdsType_of_isFiller (h : n.isFiller = true) : n.holdsType name = false := by
  cases n with
  | leaf r k t => exact holdsType_leaf t
  | tree r k ps => cases h

theorem Node.holdsType_of_contents (hself : declaresType name n = false)
    (h : ∀ p ∈ contents n.parts, p.holdsType name = false) : n.holdsType name = false := by
  refine holdsType_eq_false hself fun p hp => ?_
  cases hfiller : p.isFiller with
  | true => exact holdsType_of_isFiller hfiller
  | false => exact h p (List.mem_filter.2 ⟨hp, by simp [hfiller]⟩)

theorem Node.Imports.holdsType {specs : List Node} (h : n.Imports specs)
    (hspecs : ∀ spec ∈ specs, spec.holdsType name = false) : n.holdsType name = false := by
  cases h with
  | single hparts _ =>
    apply holdsType_of_contents (by simp [declaresType])
    rw [parts_tree, hparts]
    exact hspecs
  | group hparts hinner _ =>
    apply holdsType_of_contents (by simp [declaresType])
    rw [parts_tree, hparts]
    intro list hlist
    obtain rfl := List.mem_singleton.1 hlist
    apply holdsType_of_contents (by simp [declaresType])
    rw [parts_tree, hinner]
    exact hspecs

theorem holdsType_of_imports {decls : List Node} {rows : List (List Node)}
    (h : List.Forall₂ Node.Imports decls rows)
    (hspecs : ∀ spec ∈ rows.flatten, spec.holdsType name = false) :
    ∀ decl ∈ decls, decl.holdsType name = false := by
  induction h with
  | nil => simp
  | cons hdecl _ ih =>
    rw [List.flatten_cons, List.forall_mem_append] at hspecs
    exact List.forall_mem_cons.2 ⟨hdecl.holdsType hspecs.1, ih hspecs.2⟩

theorem Kind.isToken_of_admits {kind part : Kind} (hk : kind.isOfImports = true)
    (h : kind.admits part = true) : part.isOfImports = true ∨ part.isToken = true := by
  cases part <;> first | exact .inl rfl | exact .inr rfl | cases kind <;> cases hk <;> cases h

theorem Node.Formed.holdsType_of_isOfImports (h : n.Formed) (hk : n.kind.isOfImports = true) :
    n.holdsType name = false := by
  induction n using Node.induct with
  | leaf r k t => exact holdsType_leaf t
  | tree r k ps ih =>
    have hself : declaresType name (.tree r k ps) = false := by
      cases k <;> first | rfl | cases hk
    refine holdsType_eq_false hself fun p hp => ?_
    have hformed := h.part hp
    obtain hpart | htoken := Kind.isToken_of_admits hk (h.admits hp)
    · exact ih p hp hformed hpart
    · obtain ⟨text, hleaf, _⟩ := hformed.leaf_of_isToken htoken
      rw [hleaf]
      exact holdsType_leaf text

/-- Fillers and import declarations without a type can be passed over. -/
theorem holdsType_of_passed (h : ∀ n ∈ ns, n.isImports = true → n.holdsType name = false) :
    ∀ n ∈ ns, (!n.isImports && !n.isFiller) = false → n.holdsType name = false := by
  intro n hn hpassed
  cases himports : n.isImports with
  | true => exact h n hn himports
  | false => exact Node.holdsType_of_isFiller (by simpa [himports] using hpassed)

/-- The import specifications that a part of an import declaration contributes. -/
def specsAt (n : Node) : List Node :=
  match n.kind with
  | .importSpec => [n]
  | .importSpecList => n.named.filter Node.isImport
  | _ => []

theorem specsAt_of_isFiller (h : n.isFiller = true) : specsAt n = [] := by
  cases n with
  | leaf r k t => cases k <;> first | rfl | cases h
  | tree r k ps => cases h

theorem specsAt_of_not_isNamed (h : n.isNamed = false) : specsAt n = [] := by
  unfold Node.isNamed at h
  unfold specsAt
  split <;> simp_all [Kind.isNamed]

theorem Node.isImport_iff : n.isImport = true ↔ n.kind = .importSpec := decide_eq_true_iff

theorem Node.isImports_iff : n.isImports = true ↔ n.kind = .importDeclaration := decide_eq_true_iff

theorem Node.not_isFiller_of_isImport (h : n.isImport = true) : n.isFiller = false := by
  have hkind := isImport_iff.1 h
  exact not_isFiller (by rw [hkind]; rfl) (by rw [hkind]; decide)

theorem filter_filter_of_imp {α : Type} {keep p : α → Bool} (h : ∀ x, p x = true → keep x = true)
    (xs : List α) : (xs.filter keep).filter p = xs.filter p := by
  rw [List.filter_filter]
  apply List.filter_congr
  intro x _
  cases hx : p x with
  | true => rw [h x hx]; rfl
  | false => rfl

theorem filter_of_filter {α : Type} {keep p : α → Bool} {xs ys : List α}
    (h : ys.filter keep = xs.filter keep) (hkeep : ∀ x, p x = true → keep x = true) :
    ys.filter p = xs.filter p := by
  rw [← filter_filter_of_imp hkeep, h, filter_filter_of_imp hkeep]

theorem specsAt_of_isImport (h : n.isImport = true) : specsAt n = [n] := by
  rw [specsAt, Node.isImport_iff.1 h]

theorem specsOfDeclaration_eq (decl : Node) :
    specsOfDeclaration decl = (contents decl.parts).flatMap specsAt := by
  have hnamed : specsOfDeclaration decl = (decl.parts.filter Node.isNamed).flatMap specsAt := rfl
  rw [hnamed, contents, Node.flatMap_filter_of_nil fun n _ => specsAt_of_not_isNamed,
    Node.flatMap_filter_of_nil fun n _ hn => specsAt_of_isFiller (by simpa using hn)]

/-- The specifications of a group are all that it contains. -/
theorem filter_isImport_contents {inner specs : List Node} (h : contents inner = specs)
    (hspecs : ∀ spec ∈ specs, spec.isImport = true) :
    (inner.filter Node.isNamed).filter Node.isImport = specs := by
  have hfilter : (contents inner).filter Node.isImport = inner.filter Node.isImport :=
    filter_filter_of_imp (fun n hn => by simp [Node.not_isFiller_of_isImport hn]) inner
  have hnamed : (inner.filter Node.isNamed).filter Node.isImport = inner.filter Node.isImport :=
    filter_filter_of_imp (fun n hn => by rw [Node.isNamed, Node.isImport_iff.1 hn]; rfl) inner
  rw [hnamed, ← hfilter, h, List.filter_eq_self.2 hspecs]

/-- **The specifications of an import declaration**, alone or in parentheses. -/
theorem Node.Imports.specs {decl : Node} {specs : List Node} (h : decl.Imports specs) :
    specsOfDeclaration decl = specs := by
  rw [specsOfDeclaration_eq]
  cases h with
  | single hparts hspec =>
    rw [parts_tree, hparts, List.flatMap_singleton, specsAt_of_isImport hspec]
  | group hparts hinner hspecs =>
    rw [parts_tree, hparts, List.flatMap_singleton]
    exact filter_isImport_contents hinner hspecs

theorem flatMap_specsOfDeclaration {decls : List Node} {rows : List (List Node)}
    (h : List.Forall₂ Node.Imports decls rows) :
    decls.flatMap specsOfDeclaration = rows.flatten := by
  induction h with
  | nil => rfl
  | cons hdecl _ ih => rw [List.flatMap_cons, List.flatten_cons, hdecl.specs, ih]

theorem importSpecs_tree : importSpecs (.tree r .sourceFile items) =
    (items.filter Node.isImports).flatMap specsOfDeclaration := by
  have hnamed : importSpecs (.tree r .sourceFile items) =
      ((items.filter Node.isNamed).filter Node.isImports).flatMap specsOfDeclaration := rfl
  rw [hnamed, filter_filter_of_imp fun n hn => by rw [Node.isNamed, Node.isImports_iff.1 hn]; rfl]

/-! ## Nodes behind a declaration -/

/-- Nodes are added to neighbouring nodes, beside them or at any depth in them, none of them as a
name. -/
inductive Grows : List Node → List Node → Prop
  | nil : Grows [] []
  | same {ns ms : List Node} (n : Node) (hrest : Grows ns ms) : Grows (n :: ns) (n :: ms)
  | inside {ps qs ns ms : List Node} (role : Option Role) (kind : Kind) (hparts : Grows ps qs)
    (hrest : Grows ns ms) : Grows (.tree role kind ps :: ns) (.tree role kind qs :: ms)
  | add {ns ms : List Node} (new : Node) (hrole : new.role ≠ some .name) (hrest : Grows ns ms) :
    Grows ns (new :: ms)

/-- Nodes are added behind a declaration of the name, at any depth but not in it. -/
inductive GrowsAfter (name : String) : List Node → List Node → Prop
  | same {ns ms : List Node} (n : Node) (hrest : GrowsAfter name ns ms) :
    GrowsAfter name (n :: ns) (n :: ms)
  | first {n : Node} {ns ms : List Node} (hdecl : n.Declares name) (hrest : Grows ns ms) :
    GrowsAfter name (n :: ns) (n :: ms)
  | inside {role : Option Role} {kind : Kind} {ps qs ns ms : List Node}
    (hdecl : ¬ (Node.tree role kind ps).Declares name) (hparts : GrowsAfter name ps qs)
    (hrest : Grows ns ms) : GrowsAfter name (.tree role kind ps :: ns) (.tree role kind qs :: ms)

theorem GrowsAfter.grows (h : GrowsAfter name ns ms) : Grows ns ms := by
  induction h with
  | same n _ ih => exact .same n ih
  | first _ hrest => exact .same _ hrest
  | inside _ _ hrest ih => exact .inside _ _ ih hrest

theorem Node.Formed.role_ne_name (h : (Node.tree r k ps).Formed) : r ≠ some .name := by
  rintro rfl
  have htoken := Kind.isToken_of_fits (.inl rfl) h.fits
  cases h with
  | tree hkind => exact absurd htoken (by simpa using hkind)

theorem Node.Formed.isNamed_tree (h : (Node.tree r k ps).Formed) : k.isNamed = true := by
  cases h with
  | tree hkind => cases k <;> first | rfl | cases hkind

theorem Grows.find?_name (h : Grows ns ms) (hformed : ∀ n ∈ ns, n.Formed) :
    ms.find? (fun m => m.role == some .name) = ns.find? (fun m => m.role == some .name) := by
  induction h with
  | nil => rfl
  | same n _ ih =>
    rw [List.find?_cons, List.find?_cons, ih fun m hm => hformed m (List.mem_cons_of_mem _ hm)]
  | @inside ps qs _ _ role kind _ _ _ ih =>
    -- A tree with the role of a name would be a token.
    have hrole := (hformed _ List.mem_cons_self).role_ne_name
    rw [List.find?_cons_of_neg (by simpa using hrole),
      List.find?_cons_of_neg (by simpa using hrole),
      ih fun m hm => hformed m (List.mem_cons_of_mem _ hm)]
  | add new hrole _ ih =>
    rw [List.find?_cons_of_neg (by simpa using hrole), ih hformed]

theorem Grows.declaresType_eq (h : Grows ps qs) (hformed : ∀ p ∈ ps, p.Formed) :
    declaresType name (.tree r k qs) = declaresType name (.tree r k ps) := by
  have hname : (Node.tree r k qs).child? .name = (Node.tree r k ps).child? .name :=
    h.find?_name hformed
  rw [declaresType, declaresType, hname]
  rfl

theorem first?_tree (hnamed : k.isNamed = true) (h : declaresType name (.tree r k ps) = false) :
    first? name [.tree r k ps] = first? name ps := by
  have hself : (Node.tree r k ps).isNamed = true := hnamed
  rw [first?, Node.preorderOfAll, if_pos hself, Node.preorderOfAll, List.append_nil, Node.preorder,
    List.find?_cons_of_neg (by simp [h]), first?]

theorem first?_of_declares (h : n.Declares name) : first? name [n] = some n := by
  have hnamed : n.isNamed = true := by
    obtain ⟨hk | hk, _⟩ := h <;> rw [Node.isNamed, hk] <;> rfl
  rw [first?, Node.preorderOfAll, if_pos hnamed, Node.preorderOfAll, List.append_nil,
    Node.preorder_eq, List.find?_cons_of_pos (declaresType_iff.2 h)]

theorem Grows.refl (ns : List Node) : Grows ns ns := by
  induction ns with
  | nil => exact .nil
  | cons n ns ih => exact .same n ih

theorem Grows.concat {new : Node} (h : Grows ns ms) (hrole : new.role ≠ some .name) :
    Grows ns (ms ++ [new]) := by
  induction h with
  | nil => exact .add new hrole .nil
  | same n _ ih => exact .same n ih
  | inside role kind hparts _ _ ih => exact .inside role kind hparts ih
  | add other hother _ ih => exact .add other hother ih

theorem GrowsAfter.after (h : GrowsAfter name ns ms) (before : List Node) :
    GrowsAfter name (before ++ ns) (before ++ ms) := by
  induction before with
  | nil => exact h
  | cons n before ih => exact .same n ih

/-- Wherever in a node the declaration stands, nodes can be added behind the node. -/
theorem Grows.behind (h : Grows ns ms) (hn : n.holdsType name = true) :
    GrowsAfter name (n :: ns) (n :: ms) := by
  induction n using Node.induct generalizing ns ms with
  | leaf r k t =>
    rw [Node.holdsType_leaf] at hn
    cases hn
  | tree r k ps ih =>
    by_cases hdecl : (Node.tree r k ps).Declares name
    · exact .first hdecl h
    · -- The declaration is in a part, and the parts behind that one stay as they are.
      have hself := declaresType_eq_false hdecl
      have hpart : ∃ p ∈ ps, p.holdsType name = true := by
        by_contra hnone
        push Not at hnone
        rw [Node.holdsType_eq_false hself (by simpa using hnone)] at hn
        cases hn
      obtain ⟨p, hp, hholds⟩ := hpart
      obtain ⟨before, after, rfl⟩ := List.append_of_mem hp
      exact .inside hdecl ((ih p hp (Grows.refl after) hholds).after before) h

/-- **Nodes behind a declaration** leave the first one what it is. -/
theorem GrowsAfter.first?_eq (h : GrowsAfter name ns ms) (hformed : ∀ n ∈ ns, n.Formed) :
    ∃ spec, first? name ns = some spec ∧ first? name ms = some spec := by
  induction h with
  | @same ns ms n _ ih =>
    -- The node may hold an earlier declaration, which is then the first one on both sides.
    obtain ⟨spec, hns, hms⟩ := ih fun m hm => hformed m (List.mem_cons_of_mem _ hm)
    rw [first?_cons n ns, hns, first?_cons n ms, hms]
    cases first? name [n] with
    | none => exact ⟨spec, rfl, rfl⟩
    | some found => exact ⟨found, rfl, rfl⟩
  | @first n _ _ hdecl _ =>
    exact ⟨n, by rw [first?_cons, first?_of_declares hdecl]; rfl,
      by rw [first?_cons, first?_of_declares hdecl]; rfl⟩
  | @inside role kind ps qs _ _ hdecl hparts _ ih =>
    have htree := hformed _ List.mem_cons_self
    have hpsFormed : ∀ p ∈ ps, p.Formed := fun p hp => htree.part hp
    obtain ⟨spec, hps, hqs⟩ := ih hpsFormed
    -- Nodes that are added are no names, so the tree does not become a declaration by them.
    have hold := declaresType_eq_false hdecl
    have hnew : declaresType name (.tree role kind qs) = false := by
      rw [hparts.grows.declaresType_eq hpsFormed, hold]
    refine ⟨spec, ?_, ?_⟩
    · rw [first?_cons, first?_tree htree.isNamed_tree hold, hps]
      rfl
    · rw [first?_cons, first?_tree htree.isNamed_tree hnew, hqs]
      rfl

end

end Go

/-! ## Edits of a file -/

section
variable {file file' : Node} {items items' : List Node}

/-- **Extraction depends on three things only.** -/
theorem extract_congr (hpackage : packageName file' = packageName file)
    (htype : findType targetName file' = findType targetName file)
    (himports : importSpecs file' = importSpecs file) : extract file' = extract file := by
  simp only [extract, packageOf, targetMethods, importsIn, imports, hpackage, htype, himports]

/-- Whether the node is a package clause. -/
def Go.Node.isPackage (n : Node) : Bool := n.kind = .packageClause

/-- Whether the node names the package, imports something or holds the interface. -/
def Go.Node.isSeen (n : Node) : Bool := n.isPackage || n.isImports || n.holdsType targetName

/-- An edit of the top level of a file that extraction is not to see. -/
inductive Edited (items items' : List Node) : Prop
  /-- The import specifications are spread over other import declarations, in the same order. -/
  | imports {rows : List (List Node)}
    (hdecls : List.Forall₂ Node.Imports (items'.filter Node.isImports) rows)
    (hspecs : rows.flatten = (Node.preorderOfAll items).filter Node.isImport)
    (hrest : (contents items').filter (fun n => !n.isImports) =
      (contents items).filter (fun n => !n.isImports))
  /-- Items are added, deleted or reordered that neither name the package nor import anything nor
  hold the interface. -/
  | bystanders (h : items'.filter Node.isSeen = items.filter Node.isSeen)
  /-- Nodes are added behind a declaration of the interface and outside of it, such as further
  declarations of its name. -/
  | further (hgrows : GrowsAfter targetName items items')
    (hpackage : items'.filter Node.isPackage = items.filter Node.isPackage)
    (himports : items'.filter Node.isImports = items.filter Node.isImports)

theorem packageName_tree : packageName (.tree none .sourceFile items) =
    (items.filter Node.isPackage).head?.bind clauseName := by
  rw [packageName, List.head?_filter]
  rfl

/-- **Redistributed imports** do not show. -/
theorem extract_imports (hformed : (Node.tree none .sourceFile items).Formed)
    {rows : List (List Node)}
    (hdecls : List.Forall₂ Node.Imports (items'.filter Node.isImports) rows)
    (hspecs : rows.flatten = (Node.preorderOfAll items).filter Node.isImport)
    (hrest : (contents items').filter (fun n => !n.isImports) =
      (contents items).filter (fun n => !n.isImports)) :
    extract (.tree none .sourceFile items') = extract (.tree none .sourceFile items) := by
  have hkeep : items'.filter (fun n => !n.isImports && !n.isFiller) =
      items.filter (fun n => !n.isImports && !n.isFiller) := by
    simpa only [contents, List.filter_filter] using hrest
  have hpreorder : (Node.tree none .sourceFile items).preorder.filter Node.isImport =
      (Node.preorderOfAll items).filter Node.isImport := rfl
  have hspecQuiet : ∀ spec ∈ rows.flatten, spec.holdsType targetName = false := by
    intro spec hspec
    rw [hspecs, ← hpreorder] at hspec
    obtain ⟨hmem, himport⟩ := List.mem_filter.1 hspec
    apply (hformed.preorder hmem).holdsType_of_isOfImports
    rw [Node.isImport_iff.1 himport]
    rfl
  -- Neither old nor new import declarations hold a type, so the search passes them over.
  have hpassed : ∀ n ∈ items, (!n.isImports && !n.isFiller) = false →
      n.holdsType targetName = false :=
    holdsType_of_passed fun n hn himports =>
      (hformed.part hn).holdsType_of_isOfImports (by rw [Node.isImports_iff.1 himports]; rfl)
  have hpassed' := holdsType_of_passed fun n hn himports =>
    holdsType_of_imports hdecls hspecQuiet n (List.mem_filter.2 ⟨hn, himports⟩)
  apply extract_congr
  · rw [packageName_tree, packageName_tree, filter_of_filter hkeep]
    intro n hn
    have hkind : n.kind = .packageClause := of_decide_eq_true hn
    rw [Node.isImports, Node.not_isFiller (by rw [hkind]; rfl) (by rw [hkind]; decide), hkind]
    rfl
  · rw [findType_eq_first?, findType_eq_first?, ← first?_filter hpassed', hkeep,
      first?_filter hpassed]
  · rw [importSpecs_tree, flatMap_specsOfDeclaration hdecls, hspecs, importSpecs_eq hformed rfl,
      hpreorder]

/-- **Bystanders** do not show. -/
theorem extract_bystanders (h : items'.filter Node.isSeen = items.filter Node.isSeen) :
    extract (.tree none .sourceFile items') = extract (.tree none .sourceFile items) := by
  have hquiet : ∀ n : Node, n.isSeen = false → n.holdsType targetName = false := by
    intro n hn
    rw [Node.isSeen, Bool.or_eq_false_iff] at hn
    exact hn.2
  apply extract_congr
  · rw [packageName_tree, packageName_tree,
      filter_of_filter h fun n hn => by simp [Node.isSeen, hn]]
  · rw [findType_eq_first?, findType_eq_first?, ← first?_filter fun n _ => hquiet n, h,
      first?_filter fun n _ => hquiet n]
  · rw [importSpecs_tree, importSpecs_tree,
      filter_of_filter h fun n hn => by simp [Node.isSeen, hn]]

/-- **Nodes behind the interface** do not show. -/
theorem extract_further (hformed : (Node.tree none .sourceFile items).Formed)
    (hgrows : GrowsAfter targetName items items')
    (hpackage : items'.filter Node.isPackage = items.filter Node.isPackage)
    (himports : items'.filter Node.isImports = items.filter Node.isImports) :
    extract (.tree none .sourceFile items') = extract (.tree none .sourceFile items) := by
  obtain ⟨spec, hfirst, hfirst'⟩ := hgrows.first?_eq fun n hn => hformed.part hn
  apply extract_congr
  · rw [packageName_tree, packageName_tree, hpackage]
  · rw [findType_eq_first?, findType_eq_first?, hfirst, hfirst']
  · rw [importSpecs_tree, importSpecs_tree, himports]

/-- **What extraction depends on.** No edit that spreads the imports otherwise, changes bystanders
or adds nodes behind the interface changes what is extracted from a file, be it a mock or a
failure, or what is reported; and two files with the same package name, the same import
specifications and the same first declaration of the interface are the same to it. -/
theorem extract_unchanged {source : String} (hparse : parse source = some file) :
    (∀ items', Edited file.parts items' →
      extract (.tree none .sourceFile items') = extract file) ∧
    ∀ source' file', parse source' = some file' → packageName file' = packageName file →
      file'.preorder.filter Node.isImport = file.preorder.filter Node.isImport →
      findType targetName file' = findType targetName file → extract file' = extract file := by
  have hformed := parse_formed hparse
  constructor
  · obtain ⟨items, _, rfl, _⟩ := derives_of_parse hparse
    intro items' hedit
    cases hedit with
    | imports hdecls hspecs hrest => exact extract_imports hformed hdecls hspecs hrest
    | bystanders h => exact extract_bystanders h
    | further hgrows hpackage himports => exact extract_further hformed hgrows hpackage himports
  · intro source' file' hparse' hpackage hspecs htype
    apply extract_congr hpackage htype
    rw [importSpecs_eq (parse_formed hparse') (kind_of_parse hparse'),
      importSpecs_eq hformed (kind_of_parse hparse), hspecs]

/-- A source with two import declarations and the interface in the body of a function. -/
def nestedSource : String :=
  "package p\n\nimport \"a\"\nimport b \"c\"\n\nfunc f() " ++
  braced ("\n\ttype Querier interface " ++ braced "\n\t\tGet() a.T\n\t" ++ "\n") ++
  "\n\nvar v int\n"

/-- The items of a file with all imports in one group before the others. -/
def regrouped (items : List Node) : List Node :=
  .tree none .importDeclaration
      [.tree none .importSpecList ((Node.preorderOfAll items).filter Node.isImport)] ::
    (contents items).filter fun n => !n.isImports

/-- A further declaration of the interface. -/
def laterTarget : Node :=
  .tree none .typeDeclaration [.leaf none .mark "type", .tree none .typeSpec
    [.leaf (some .name) .typeIdentifier "Querier", .leaf (some .type) .typeIdentifier "int"]]

theorem regrouped_edited (items : List Node) : Edited items (regrouped items) := by
  have himports : ∀ spec ∈ (Node.preorderOfAll items).filter Node.isImport,
      spec.isImport = true := fun spec hspec => (List.mem_filter.1 hspec).2
  have hcontents : contents ((Node.preorderOfAll items).filter Node.isImport) =
      (Node.preorderOfAll items).filter Node.isImport := by
    apply List.filter_eq_self.2
    intro spec hspec
    rw [Node.not_isFiller_of_isImport (himports spec hspec)]
    rfl
  have hdecls : List.Forall₂ Node.Imports ((regrouped items).filter Node.isImports)
      [(Node.preorderOfAll items).filter Node.isImport] := by
    have hnone : ((contents items).filter fun n => !n.isImports).filter Node.isImports = [] := by
      simp [List.filter_filter]
    rw [regrouped, List.filter_cons_of_pos rfl, hnone]
    exact .cons (.group rfl hcontents himports) .nil
  refine .imports hdecls (List.append_nil _) ?_
  rw [regrouped, contents, List.filter_cons_of_pos rfl,
    List.filter_cons_of_neg (by simp [Node.isImports]), contents]
  simp only [List.filter_filter]
  apply List.filter_congr
  intro n _
  cases n.isImports <;> cases n.isFiller <;> rfl

theorem laterTarget_edited (h : ∃ n ∈ items, n.holdsType targetName = true) :
    Edited items (items ++ [laterTarget]) := by
  obtain ⟨n, hn, hholds⟩ := h
  obtain ⟨before, after, rfl⟩ := List.append_of_mem hn
  refine .further ?_ ?_ ?_
  · rw [List.append_assoc]
    exact ((Grows.refl after).concat (by decide)).behind hholds |>.after before
  · rw [List.filter_append, List.append_right_eq_self]
    rfl
  · rw [List.filter_append, List.append_right_eq_self]
    rfl

/-- Three edits of the source that do not show. -/
theorem nestedSource_unchanged : ∃ file, parse nestedSource = some file ∧
    (extract file).outcome = .ok ⟨"", "", "p", "Mocker", [⟨"a", ""⟩, ⟨"c", "b"⟩],
      [⟨"Get", [], [⟨"", "a.T"⟩]⟩]⟩ ∧
    ∀ items' ∈ [regrouped file.parts, file.parts.filter Node.isSeen, file.parts ++ [laterTarget]],
      Edited file.parts items' ∧ extract (.tree none .sourceFile items') = extract file := by
  have hread : (parse nestedSource).any (fun file => file.parts.any (Node.holdsType targetName) &&
      (extract file).outcome.toOption == some ⟨"", "", "p", "Mocker", [⟨"a", ""⟩, ⟨"c", "b"⟩],
        [⟨"Get", [], [⟨"", "a.T"⟩]⟩]⟩) = true := by
    decide +kernel
  obtain ⟨file, hparse, hread⟩ := (Option.any_eq_true _ _).1 hread
  obtain ⟨htype, hmock⟩ := Bool.and_eq_true_iff.1 hread
  have hedits : ∀ items' ∈ [regrouped file.parts, file.parts.filter Node.isSeen,
      file.parts ++ [laterTarget]], Edited file.parts items' := by
    simp only [List.forall_mem_cons]
    refine ⟨regrouped_edited _, .bystanders ?_, laterTarget_edited (List.any_eq_true.1 htype), ?_⟩
    · simp
    · simp
  exact ⟨file, hparse, eq_ok_of_toOption (eq_of_beq hmock), fun items' hmem =>
    ⟨hedits items' hmem, (extract_unchanged hparse).1 items' (hedits items' hmem)⟩⟩

end

end Understudy
