import Understudy.Text.Pattern

/-!
# What patterns match

The matches of a pattern as a relation between places of a text, without the order in which they are
tried. Where there is only one match, the order does not matter, and the groups hold what that match
gives them.

* `Pattern.Matches`: the places between which a pattern matches.
* `Pattern.mem_ways`: these are the places that are tried.
* `Pattern.IsAnchored.captures_of_unique`, `Pattern.IsAnchored.captures_of_none`: the groups of a
  pattern with at most one match.
* `Pattern.matches_many_one`: a run of characters of a class.
-/

set_option autoImplicit false

namespace Understudy.Text.Pattern

/-- The pattern matches what stands between the two places. -/
inductive Matches : Pattern → Cursor → Cursor → Prop
  | start {p : Cursor} (h : p.before = []) : Matches .start p p
  | stop {p : Cursor} (h : p.after = []) : Matches .stop p p
  | one {k : CharClass} {c : Char} {before after : List Char} {groups : List (Nat × List Char)}
    (h : k.contains c = true) :
    Matches (.one k) ⟨before, c :: after, groups⟩ ⟨c :: before, after, groups⟩
  | rest {r : Pattern} {p : Cursor} : Matches (.many r) p p
  | turn {r : Pattern} {p q s : Cursor} (h : Matches r p q)
    (hmoves : q.after.length < p.after.length) (hmore : Matches (.many r) q s) :
    Matches (.many r) p s
  | seq {first second : Pattern} {p q s : Cursor} (h : Matches first p q)
    (hsecond : Matches second q s) : Matches (.seq first second) p s
  | group {number : Nat} {r : Pattern} {p q : Cursor} (h : Matches r p q) :
    Matches (.group number r) p (p.keep number q)

/-! ## The ways that are tried -/

section
variable {r : Pattern} {p q : Cursor}

theorem matches_of_mem_turns (h : ∀ p q, q ∈ r.ways p → Matches r p q) :
    ∀ (n : Nat) {p q : Cursor}, q ∈ turns r.ways n p → Matches (.many r) p q
  | 0, p, q, hq => by
    rw [List.mem_singleton.1 hq]
    exact .rest
  | n + 1, p, q, hq => by
    rcases List.mem_append.1 hq with hq | hq
    · obtain ⟨s, hs, hq⟩ := List.mem_flatMap.1 hq
      rw [List.mem_filter, decide_eq_true_eq] at hs
      exact .turn (h p s hs.1) hs.2 (matches_of_mem_turns h n hq)
    · rw [List.mem_singleton.1 hq]
      exact .rest

theorem matches_of_mem_ways (r : Pattern) : ∀ p q, q ∈ r.ways p → Matches r p q := by
  induction r with
  | start =>
    intro p q h
    simp only [ways, List.mem_ite_nil_right, List.mem_singleton] at h
    obtain ⟨hp, rfl⟩ := h
    exact .start hp
  | stop =>
    intro p q h
    simp only [ways, List.mem_ite_nil_right, List.mem_singleton] at h
    obtain ⟨hp, rfl⟩ := h
    exact .stop hp
  | one k =>
    intro ⟨before, after, groups⟩ q h
    cases after with
    | nil => simp [ways] at h
    | cons c cs =>
      simp only [ways, List.mem_ite_nil_right, List.mem_singleton] at h
      exact h.2 ▸ .one h.1
  | many r ih => exact fun p q => matches_of_mem_turns ih p.after.length
  | seq first second ih₁ ih₂ =>
    intro p q h
    obtain ⟨s, hs, hq⟩ := List.mem_flatMap.1 h
    exact .seq (ih₁ p s hs) (ih₂ s q hq)
  | group number r ih =>
    intro p q h
    obtain ⟨s, hs, rfl⟩ := List.mem_map.1 h
    exact .group (ih p s hs)

/-- Every turn moves on, so as many turns as there are characters are enough. -/
theorem turns_eq (one : Cursor → List Cursor) {n : Nat} (hn : p.after.length ≤ n) :
    turns one n p = ((one p).filter fun q => q.after.length < p.after.length).flatMap
      (fun q => turns one q.after.length q) ++ [p] := by
  induction n using Nat.strongRecOn generalizing p with
  | ind n ih =>
    cases n with
    | zero => simp [turns, Nat.le_zero.1 hn]
    | succ n =>
      have hturns : ∀ q ∈ (one p).filter fun q => q.after.length < p.after.length,
          turns one n q = turns one q.after.length q := by
        intro q hq
        rw [List.mem_filter, decide_eq_true_eq] at hq
        rw [ih n (by omega) (by omega), ih q.after.length (by omega) (Nat.le_refl _)]
      rw [turns, List.flatMap_def, List.flatMap_def, List.map_congr_left hturns]

theorem mem_ways_of_matches (h : Matches r p q) : q ∈ r.ways p := by
  induction h with
  | start h | stop h | one h => simp [ways, h]
  | rest =>
    rw [ways, turns_eq _ (Nat.le_refl _)]
    simp
  | @turn r p q s _ hmoves _ ih ihmore =>
    rw [ways, turns_eq _ (Nat.le_refl _)]
    refine List.mem_append_left _ (List.mem_flatMap.2 ⟨q, ?_, ihmore⟩)
    rw [List.mem_filter, decide_eq_true_eq]
    exact ⟨ih, hmoves⟩
  | seq _ _ ih₁ ih₂ => exact List.mem_flatMap.2 ⟨_, ih₁, ih₂⟩
  | group _ ih => exact List.mem_map_of_mem ih

/-- **The places that are tried** are those to which the pattern matches. -/
theorem mem_ways : q ∈ r.ways p ↔ Matches r p q :=
  ⟨matches_of_mem_ways r p q, mem_ways_of_matches⟩

end

/-! ## Captures -/

/-- The pattern matches nowhere but at the beginning of a text. -/
def IsAnchored (r : Pattern) : Prop := ∀ p q, Matches r p q → p.before = []

theorem isAnchored_seq_start (r : Pattern) : IsAnchored (.seq .start r) := by
  intro p q h
  cases h with
  | seq hstart _ =>
    cases hstart with
    | start hp => exact hp

section
variable {r : Pattern} {text : List Char} {q : Cursor}

theorem ways_eq_nil {p : Cursor} (h : ∀ q, ¬ Matches r p q) : r.ways p = [] :=
  List.eq_nil_iff_forall_not_mem.2 fun q hq => h q (mem_ways.1 hq)

theorem IsAnchored.search_eq_none (hr : IsAnchored r) {before after : List Char}
    (hbefore : before ≠ []) : r.search before after = none := by
  have hways : ∀ after, r.ways ⟨before, after, []⟩ = [] := fun after =>
    ways_eq_nil fun q h => hbefore (hr _ q h)
  induction after generalizing before with
  | nil => rw [search, hways, List.head?_nil]
  | cons c cs ih =>
    rw [search, hways, List.head?_nil]
    exact ih (by simp) fun after => ways_eq_nil fun q h => by simpa using hr _ q h

/-- An anchored pattern is tried at the beginning only. -/
theorem IsAnchored.captures_eq (hr : IsAnchored r) (text : List Char) :
    r.captures text = (r.ways ⟨[], text, []⟩).head?.map Cursor.groups := by
  rw [captures]
  congr 1
  cases text with
  | nil => rw [search]
  | cons c cs =>
    rw [search]
    split
    · rename_i p hp
      rw [hp]
    · rename_i hnone
      rw [hnone, hr.search_eq_none (by simp)]

/-- **A pattern with one match** captures what this match gives to its groups. -/
theorem IsAnchored.captures_of_unique (hr : IsAnchored r) (h : Matches r ⟨[], text, []⟩ q)
    (hunique : ∀ q', Matches r ⟨[], text, []⟩ q' → q' = q) :
    r.captures text = some q.groups := by
  rw [hr.captures_eq]
  cases hways : r.ways ⟨[], text, []⟩ with
  | nil =>
    have hmem := mem_ways.2 h
    rw [hways] at hmem
    cases hmem
  | cons first more =>
    rw [hunique first (mem_ways.1 (by simp [hways]))]
    rfl

/-- A pattern without a match captures nothing. -/
theorem IsAnchored.captures_of_none (hr : IsAnchored r)
    (h : ∀ q, ¬ Matches r ⟨[], text, []⟩ q) : r.captures text = none := by
  rw [hr.captures_eq, ways_eq_nil h]
  rfl

end

/-! ## What each part matches -/

section
variable {r first second : Pattern} {k : CharClass} {p q : Cursor}

theorem matches_start : Matches .start p q ↔ p.before = [] ∧ q = p := by
  constructor
  · intro h
    cases h with
    | start hp => exact ⟨hp, rfl⟩
  · rintro ⟨hp, rfl⟩
    exact .start hp

theorem matches_stop : Matches .stop p q ↔ p.after = [] ∧ q = p := by
  constructor
  · intro h
    cases h with
    | stop hp => exact ⟨hp, rfl⟩
  · rintro ⟨hp, rfl⟩
    exact .stop hp

theorem matches_seq : Matches (.seq first second) p q ↔
    ∃ s, Matches first p s ∧ Matches second s q := by
  constructor
  · intro h
    cases h with
    | seq hfirst hsecond => exact ⟨_, hfirst, hsecond⟩
  · rintro ⟨s, hfirst, hsecond⟩
    exact .seq hfirst hsecond

theorem matches_group {number : Nat} : Matches (.group number r) p q ↔
    ∃ s, Matches r p s ∧ q = p.keep number s := by
  constructor
  · intro h
    cases h with
    | group hr => exact ⟨_, hr, rfl⟩
  · rintro ⟨s, hr, rfl⟩
    exact .group hr

theorem matches_one : Matches (.one k) p q ↔
    ∃ c cs, p.after = c :: cs ∧ k.contains c = true ∧ q = ⟨c :: p.before, cs, p.groups⟩ := by
  constructor
  · intro h
    cases h with
    | one hc => exact ⟨_, _, rfl, hc, rfl⟩
  · obtain ⟨before, after, groups⟩ := p
    rintro ⟨c, cs, hafter, hc, rfl⟩
    dsimp only at hafter
    exact hafter ▸ .one hc

/-- A repetition of a class goes on over characters of the class. -/
theorem matches_many_one : Matches (.many (.one k)) p q ↔
    ∃ cs rest, p.after = cs ++ rest ∧ (∀ c ∈ cs, k.contains c = true) ∧
      q = ⟨cs.reverse ++ p.before, rest, p.groups⟩ := by
  constructor
  · intro h
    generalize hr : Pattern.many (.one k) = r at h
    induction h with
    | start | stop | one | seq | group => cases hr
    | rest => exact ⟨[], _, rfl, by simp, rfl⟩
    | turn hone _ _ _ ih =>
      cases hr
      obtain ⟨c, cs, hafter, hc, rfl⟩ := matches_one.1 hone
      obtain ⟨ds, rest, rfl, hds, rfl⟩ := ih rfl
      refine ⟨c :: ds, rest, hafter, List.forall_mem_cons.2 ⟨hc, hds⟩, ?_⟩
      rw [List.reverse_cons, List.append_assoc, List.singleton_append]
  · obtain ⟨before, after, groups⟩ := p
    rintro ⟨cs, rest, hafter, hcs, rfl⟩
    dsimp only at hafter
    subst hafter
    induction cs generalizing before with
    | nil => exact .rest
    | cons c cs ih =>
      obtain ⟨hc, hcs⟩ := List.forall_mem_cons.1 hcs
      have hmore := ih (c :: before) hcs
      rw [List.reverse_cons, List.append_assoc, List.singleton_append]
      exact .turn (.one hc) (by simp) hmore

theorem upTo_of_append {cs : List Char} (h : p.after = cs ++ q.after) : p.upTo q = cs := by
  rw [Cursor.upTo, h, List.length_append, Nat.add_sub_cancel, List.take_left]

end

end Understudy.Text.Pattern
