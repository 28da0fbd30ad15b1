import Mathlib.Data.List.Lex
import Understudy.Proofs.Extraction

/-!
# The first declaration of a type

A node of a tree has an address: the places, among the named children, of the nodes on the way down
to it. Addresses in the order of a dictionary are the nodes in source order, each before what it
holds. The declaration that is found is the one with the first address.

* `Node.at?`: the node at an address.
* `findType_eq`: the search in one node goes on in its named children.
* `findType_first`: what is found, when nothing is, and where the search stops.
-/

set_option autoImplicit false

namespace Understudy.Go

namespace Node

/-- The node at an address, if there is one. -/
def at? (n : Node) : List Nat → Option Node
  | [] => some n
  | i :: address => n.named[i]?.bind fun m => m.at? address

@[simp] theorem at?_nil (n : Node) : n.at? [] = some n := rfl

theorem at?_cons_eq_some {n m : Node} {i : Nat} {address : List Nat} :
    n.at? (i :: address) = some m ↔ ∃ p, n.named[i]? = some p ∧ p.at? address = some m := by
  simp [at?, Option.bind_eq_some_iff]

/-- The nodes with an address are the node itself and its named descendants. -/
theorem exists_at?_iff {n m : Node} :
    (∃ address, n.at? address = some m) ↔ m = n ∨ n.HasDescendant m := by
  rw [HasDescendant, ← Relation.reflTransGen_iff_eq_or_transGen]
  constructor
  · rintro ⟨address, h⟩
    induction address generalizing n with
    | nil =>
      obtain rfl : n = m := by simpa using h
      exact .refl
    | cons i address ih =>
      obtain ⟨p, hp, hm⟩ := at?_cons_eq_some.1 h
      exact .head (List.mem_of_getElem? hp) (ih hm)
  · intro h
    induction h using Relation.ReflTransGen.head_induction_on with
    | refl => exact ⟨[], rfl⟩
    | head hstep _ ih =>
      obtain ⟨address, hm⟩ := ih
      obtain ⟨i, hi⟩ := List.mem_iff_getElem?.1 hstep
      exact ⟨i :: address, at?_cons_eq_some.2 ⟨_, hi, hm⟩⟩

end Node

/-- The first address stands before the second one: at the first place where they differ it goes to
an earlier child, or it ends there. -/
def Precedes (earlier later : List Nat) : Prop := List.Lex (· < ·) earlier later

theorem Precedes.trichotomy (a b : List Nat) : Precedes a b ∨ a = b ∨ Precedes b a :=
  trichotomous_of (List.Lex (· < ·)) a b

/-- The node stands at the address, declares a type of the name, and is the first one that does. -/
structure FirstAt (name : String) (root : Node) (address : List Nat) (n : Node) : Prop where
  here : root.at? address = some n
  declares : n.Declares name
  first : ∀ earlier m, Precedes earlier address → root.at? earlier = some m → ¬ m.Declares name

section
variable {name : String} {root n m p : Node} {i : Nat} {address address' : List Nat}

theorem FirstAt.self (h : root.Declares name) : FirstAt name root [] root where
  here := rfl
  declares := h
  first := by
    intro earlier m hearlier
    cases hearlier

/-- The first declaration in a child is the first one in the node, if neither the node itself nor an
earlier child has one. -/
theorem FirstAt.child (hroot : ¬ root.Declares name) (hp : root.named[i]? = some p)
    (hbefore : ∀ j q, j < i → root.named[j]? = some q → findType name q = none)
    (h : FirstAt name p address n) : FirstAt name root (i :: address) n where
  here := Node.at?_cons_eq_some.2 ⟨p, hp, h.here⟩
  declares := h.declares
  first := by
    intro earlier m hearlier hm
    cases hearlier with
    | nil =>
      obtain rfl : root = m := by simpa using hm
      exact hroot
    | cons hlex =>
      obtain ⟨q, hq, hm⟩ := Node.at?_cons_eq_some.1 hm
      obtain rfl : p = q := by rw [hp] at hq; exact Option.some.inj hq
      exact h.first _ m hlex hm
    | @rel j rest _ _ hj =>
      obtain ⟨q, hq, hm⟩ := Node.at?_cons_eq_some.1 hm
      exact findType_none_iff.1 (hbefore j q hj hq) m (Node.exists_at?_iff.1 ⟨rest, hm⟩)

theorem FirstAt.unique (h : FirstAt name root address n) (h' : FirstAt name root address' m) :
    n = m := by
  obtain hlt | rfl | hlt := Precedes.trichotomy address address'
  · exact absurd h.declares (h'.first address n hlt h.here)
  · exact Option.some.inj (h.here.symm.trans h'.here)
  · exact absurd h'.declares (h.first address' m hlt h'.here)

end

/-- **One step of the search**: a declaration of the name is the answer, whatever it holds, and in
any other node the first child that has an answer gives it. -/
theorem findType_eq (name : String) (root : Node) : findType name root =
    if declaresType name root then some root else root.named.findSome? (findType name) := by
  rw [findType, Node.preorder_eq, List.find?_cons, List.find?_flatMap]
  cases declaresType name root <;> rfl

section
variable {name : String} {root n : Node}

/-- If what is found in a child is always the first one there, so is what is found in the node. -/
theorem exists_firstAt_of_children
    (hchildren : ∀ p ∈ root.named, findType name p = some n → ∃ address, FirstAt name p address n)
    (h : findType name root = some n) : ∃ address, FirstAt name root address n := by
  rw [findType_eq] at h
  split at h
  · rename_i hdecl
    cases h
    exact ⟨[], .self (declaresType_iff.1 hdecl)⟩
  · rename_i hdecl
    obtain ⟨before, p, after, hnamed, hp, hbefore⟩ := List.findSome?_eq_some_iff.1 h
    obtain ⟨address, hfirst⟩ := hchildren p (by simp [hnamed]) hp
    -- The children before `p` have no declaration, so their number leads to the first one.
    refine ⟨before.length :: address, hfirst.child (mt declaresType_iff.2 hdecl) ?_ ?_⟩
    · simp [hnamed]
    · intro j q hj hq
      rw [hnamed, List.getElem?_append_left hj] at hq
      exact hbefore q (List.mem_of_getElem? hq)

theorem exists_firstAt (h : findType name root = some n) :
    ∃ address, FirstAt name root address n := by
  induction root using Node.induct with
  | leaf r k t =>
    refine exists_firstAt_of_children ?_ h
    intro p hp
    cases hp
  | tree r k ps ih =>
    refine exists_firstAt_of_children ?_ h
    intro p hp
    exact ih p (Node.mem_parts_of_named hp)

end

/-- **The first declaration.** In every tree, the node that is found is the one whose address comes
before those of all other declarations of the name. Nothing is found exactly if neither the root nor
a named descendant declares the name. The search does not go into a declaration that it was looking
for, and goes into all other nodes, declarations of other names among them. -/
theorem findType_first (name : String) (root : Node) :
    (∀ n, findType name root = some n ↔ ∃ address, FirstAt name root address n) ∧
      (findType name root = none ↔
        ∀ n, n = root ∨ root.HasDescendant n → ¬ n.Declares name) ∧
      findType name root =
        if declaresType name root then some root
        else root.named.findSome? (findType name) := by
  refine ⟨fun n => ⟨exists_firstAt, ?_⟩, findType_none_iff, findType_eq name root⟩
  rintro ⟨address, hfirst⟩
  have hsome : findType name root ≠ none := by
    intro hnone
    have hhere := Node.exists_at?_iff.1 ⟨address, hfirst.here⟩
    exact findType_none_iff.1 hnone n hhere hfirst.declares
  -- What is found is the first one too, and there is only one.
  obtain ⟨m, hm⟩ := Option.ne_none_iff_exists'.1 hsome
  obtain ⟨address', hfirst'⟩ := exists_firstAt hm
  rw [hm, hfirst'.unique hfirst]

end Understudy.Go
