import Understudy.Go.Grammar.File

/-!
# What rules read

`Reads levels turns r ctx ts ns rest`: from `ts` the rule `r` reads the nodes `ns` and leaves
`rest`. `Refuses levels turns r ctx ts`: it does not match at `ts`. A combinator of rules has one
lemma for each way it can go, and later proofs put these together without opening `Rule.run`.

* `Reads.phrase` and `Refuses.phrase` take one level for a phrase.
* `Repeats` is the reading of a repetition; `Repeats.flatMap` reads the items of a list.
* `Reads.lead`: blanks, comments and line ends in front of a rule that begins with a token go to
  the nodes beside it.
* `parse_of_reads`: a file that is read with the levels of the bound on nesting is parsed.
-/

set_option autoImplicit false

namespace Understudy.Go.Rule

/-! ## One equation for each combinator -/

section
variable {P : Type} {again : Context → P → List Token → Reading} {turns : Nat} {ctx : Context}
  {ts : List Token} {r first second : Rule P}

theorem run_token {accepts : Context → Token → Bool} {kind : Kind} :
    (token accepts kind : Rule P).run again turns ctx ts =
      match ts.dropWhile Token.isTrivia with
      | [] => none
      | t :: rest =>
        if accepts ctx t then some ((takeTrivia ts).1 ++ [.leaf none kind t.text], rest)
        else none := rfl

theorem run_terminator : (terminator : Rule P).run again turns ctx ts =
    match ts.dropWhile Token.isInline with
    | [] => none
    | t :: rest =>
      if t.isTerminator then some ((takeNodes Token.isInline ts).1 ++ [t.toNode], rest)
      else none := rfl

theorem run_finish : (finish : Rule P).run again turns ctx ts =
    match takeTrivia ts with
    | (ns, []) => some (ns, [])
    | (_, _ :: _) => none := rfl

theorem run_seq : (seq first second).run again turns ctx ts =
    match first.run again turns ctx ts with
    | none => none
    | some (ns, rest) =>
      match second.run again turns ctx rest with
      | none => none
      | some (more, left) => some (ns ++ more, left) := rfl

theorem run_alt : (alt first second).run again turns ctx ts =
    match first.run again turns ctx ts with
    | some reading => some reading
    | none => second.run again turns ctx ts := rfl

theorem run_many : (many r).run again turns ctx ts =
    some (repeated (r.run again turns ctx) turns ts) := rfl

theorem run_absent : (absent r).run again turns ctx ts =
    match r.run again turns ctx ts with
    | some _ => none
    | none => some ([], ts) := rfl

theorem run_present : (present r).run again turns ctx ts =
    match r.run again turns ctx ts with
    | some _ => some ([], ts)
    | none => none := rfl

theorem run_near : (near r).run again turns ctx ts =
    if ctx.lines && endsLine ts then none else r.run again turns ctx ts := rfl

theorem run_node {kind : Kind} : (node kind r).run again turns ctx ts =
    match r.run again turns ctx (takeTrivia ts).2 with
    | none => none
    | some (ns, rest) => some ((takeTrivia ts).1 ++ [.tree none kind ns], rest) := rfl

theorem run_role {what : Role} : (role what r).run again turns ctx ts =
    match r.run again turns ctx ts with
    | none => none
    | some (ns, rest) => some (giveRole what ns, rest) := rfl

theorem run_when {test : Context → Bool} : (when test r).run again turns ctx ts =
    if test ctx then r.run again turns ctx ts else none := rfl

theorem repeated_succ {one : List Token → Reading} :
    repeated one (turns + 1) ts =
      match one ts with
      | none => ([], ts)
      | some (ns, rest) => (ns ++ (repeated one turns rest).1, (repeated one turns rest).2) := rfl

theorem takeTrivia_token {t : Token} (ht : t.isTrivia = false) :
    takeTrivia (t :: ts) = ([], t :: ts) := by
  unfold takeTrivia takeNodes
  rw [ht]
  rfl

theorem takeTrivia_trivia {t : Token} (ht : t.isTrivia = true) :
    takeTrivia (t :: ts) = (t.toNode :: (takeTrivia ts).1, (takeTrivia ts).2) := by
  unfold takeTrivia
  rw [takeNodes, ht]
  rfl

end

end Understudy.Go.Rule

namespace Understudy.Go.Grammar

open Rule

/-- The rule reads `ns` and leaves `rest`, with phrases nesting at most `levels` deep and repetitions
of at most `turns` turns. -/
def Reads (levels turns : Nat) (r : GoRule) (ctx : Context) (ts : List Token) (ns : List Node)
    (rest : List Token) : Prop :=
  r.run (Rule.read rules levels) turns ctx ts = some (ns, rest)

/-- The rule does not match. -/
def Refuses (levels turns : Nat) (r : GoRule) (ctx : Context) (ts : List Token) : Prop :=
  r.run (Rule.read rules levels) turns ctx ts = none

section
variable {levels turns : Nat} {r first second : GoRule} {ctx : Context} {ts rest left : List Token}
  {ns more : List Node}

/-! ## Sequences and choices -/

theorem Reads.done : Reads levels turns Rule.done ctx ts [] ts := rfl

theorem Reads.seq (h1 : Reads levels turns first ctx ts ns rest)
    (h2 : Reads levels turns second ctx rest more left) :
    Reads levels turns (seq first second) ctx ts (ns ++ more) left := by
  unfold Reads at *
  simp only [run_seq, h1, h2]

theorem Refuses.seq (h : Refuses levels turns first ctx ts) :
    Refuses levels turns (seq first second) ctx ts := by
  unfold Refuses at *
  simp only [run_seq, h]

theorem Reads.seq_refuses (h1 : Reads levels turns first ctx ts ns rest)
    (h2 : Refuses levels turns second ctx rest) :
    Refuses levels turns (Rule.seq first second) ctx ts := by
  unfold Reads at h1
  unfold Refuses at *
  simp only [run_seq, h1, h2]

theorem Reads.alt (h : Reads levels turns first ctx ts ns rest) :
    Reads levels turns (alt first second) ctx ts ns rest := by
  unfold Reads at *
  simp only [run_alt, h]

theorem Refuses.or_reads (h1 : Refuses levels turns first ctx ts)
    (h2 : Reads levels turns second ctx ts ns rest) :
    Reads levels turns (Rule.alt first second) ctx ts ns rest := by
  unfold Refuses at h1
  unfold Reads at *
  simp only [run_alt, h1, h2]

theorem Refuses.or (h1 : Refuses levels turns first ctx ts)
    (h2 : Refuses levels turns second ctx ts) :
    Refuses levels turns (Rule.alt first second) ctx ts := by
  unfold Refuses at *
  simp only [run_alt, h1, h2]

theorem Refuses.of_alt (h : Refuses levels turns (Rule.alt first second) ctx ts) :
    Refuses levels turns first ctx ts ∧ Refuses levels turns second ctx ts := by
  unfold Refuses at *
  rw [run_alt] at h
  split at h
  · cases h
  · exact ⟨by assumption, h⟩

/-- The first alternative that matches is read. -/
theorem Refuses.any_reads {more : List GoRule} (hr : Reads levels turns r ctx ts ns rest) :
    ∀ {rs : List GoRule}, Refuses levels turns (any rs) ctx ts →
      Reads levels turns (any (rs ++ r :: more)) ctx ts ns rest
  | [], _ => by
    cases more with
    | nil => exact hr
    | cons s more => exact hr.alt
  | [_], h => by
    have hrest : Reads levels turns (any ([] ++ r :: more)) ctx ts ns rest := Refuses.any_reads hr rfl
    exact h.or_reads hrest
  | _ :: _ :: _, h => h.of_alt.1.or_reads (h.of_alt.2.any_reads hr)

theorem Reads.opt (h : Reads levels turns r ctx ts ns rest) :
    Reads levels turns (Rule.opt r) ctx ts ns rest := h.alt

theorem Refuses.opt (h : Refuses levels turns r ctx ts) :
    Reads levels turns (Rule.opt r) ctx ts [] ts := h.or_reads Reads.done

/-! ## Tokens -/

/-- A token that the rule accepts and that stands first. -/
theorem Reads.token {accepts : Context → Token → Bool} {kind : Kind} {t : Token}
    (ht : t.isTrivia = false) (ha : accepts ctx t = true) :
    Reads levels turns (token accepts kind) ctx (t :: rest) [.leaf none kind t.text] rest := by
  simp [Reads, run_token, takeTrivia_token, ht, ha]

theorem Refuses.token {accepts : Context → Token → Bool} {kind : Kind} {t : Token}
    (ht : t.isTrivia = false) (ha : accepts ctx t = false) :
    Refuses levels turns (Rule.token accepts kind) ctx (t :: rest) := by
  simp [Refuses, run_token, ht, ha]

/-! ## Surroundings -/

theorem Reads.near (h : Reads levels turns r ctx ts ns rest) (hl : endsLine ts = false) :
    Reads levels turns (Rule.near r) ctx ts ns rest := by
  unfold Reads at *
  simp only [run_near, hl, Bool.and_false, Bool.false_eq_true, ↓reduceIte, h]

theorem Refuses.near (h : Refuses levels turns r ctx ts) :
    Refuses levels turns (Rule.near r) ctx ts := by
  unfold Refuses at *
  simp only [run_near, h, ite_self]

/-- Nothing is near beyond a line end that terminates. -/
theorem Refuses.far (hc : ctx.lines = true) (hl : endsLine ts = true) :
    Refuses levels turns (Rule.near r) ctx ts := by
  unfold Refuses
  simp only [run_near, hc, hl, Bool.and_self, ↓reduceIte]

theorem Reads.within {change : Context → Context}
    (h : Reads levels turns r (change ctx) ts ns rest) :
    Reads levels turns (Rule.within change r) ctx ts ns rest := h

/-! ## Nodes and phrases -/

/-- A node whose rule begins at a token. -/
theorem Reads.node {kind : Kind} (ht : takeTrivia ts = ([], ts))
    (h : Reads levels turns r ctx ts ns rest) :
    Reads levels turns (Rule.node kind r) ctx ts [.tree none kind ns] rest := by
  unfold Reads at *
  simp only [run_node, ht, h, List.nil_append]

theorem Refuses.node {kind : Kind} (ht : takeTrivia ts = ([], ts))
    (h : Refuses levels turns r ctx ts) :
    Refuses levels turns (Rule.node kind r) ctx ts := by
  unfold Refuses at *
  simp only [run_node, ht, h]

theorem Reads.role {what : Role} (h : Reads levels turns r ctx ts ns rest) :
    Reads levels turns (Rule.role what r) ctx ts (giveRole what ns) rest := by
  unfold Reads at *
  simp only [run_role, h]

theorem Refuses.role {what : Role} (h : Refuses levels turns r ctx ts) :
    Refuses levels turns (Rule.role what r) ctx ts := by
  unfold Refuses at *
  simp only [run_role, h]

/-- A phrase takes one level, and the levels below it bound the repetitions in its rule. -/
theorem Reads.phrase {p : Phrase} (h : Reads levels levels (rules p) ctx ts ns rest) :
    Reads (levels + 1) turns (Rule.phrase p) ctx ts ns rest := h

theorem Refuses.phrase {p : Phrase} (h : Refuses levels levels (rules p) ctx ts) :
    Refuses (levels + 1) turns (Rule.phrase p) ctx ts := h

/-! ## Look-ahead -/

theorem Refuses.absent (h : Refuses levels turns r ctx ts) :
    Reads levels turns (Rule.absent r) ctx ts [] ts := by
  unfold Refuses at h
  unfold Reads
  simp only [run_absent, h]

end

/-! ## Repetitions -/

/-- The rule, repeated from `ts` on in at most `left` turns, reads `ns` and leaves `rest`. -/
def Repeats (levels turns left : Nat) (r : GoRule) (ctx : Context) (ts : List Token)
    (ns : List Node) (rest : List Token) : Prop :=
  repeated (r.run (Rule.read rules levels) turns ctx) left ts = (ns, rest)

section
variable {levels turns left : Nat} {r : GoRule} {ctx : Context} {ts rest last : List Token}
  {ns more : List Node}

theorem Refuses.repeats (h : Refuses levels turns r ctx ts) :
    Repeats levels turns left r ctx ts [] ts := by
  unfold Refuses at h
  cases left with
  | zero => rfl
  | succ left => simp only [Repeats, repeated_succ, h]

theorem Reads.repeats (h : Reads levels turns r ctx ts ns rest)
    (hr : Repeats levels turns left r ctx rest more last) :
    Repeats levels turns (left + 1) r ctx ts (ns ++ more) last := by
  unfold Reads at h
  unfold Repeats at *
  simp only [repeated_succ, h, hr]

theorem Repeats.many (h : Repeats levels turns turns r ctx ts ns rest) :
    Reads levels turns (Rule.many r) ctx ts ns rest := by
  unfold Repeats at h
  simp only [Reads, run_many, h]

/-- A repetition whose rule does not match reads nothing. -/
theorem Refuses.many (h : Refuses levels turns r ctx ts) :
    Reads levels turns (Rule.many r) ctx ts [] ts := h.repeats.many

/-- What may stand after an item stands before the items of a list. -/
theorem follows_flatMap {α : Type} {spelled : α → List Token} {Follows : List Token → Prop}
    {stop : List Token} {xs : List α}
    (hitem : ∀ x ∈ xs, ∀ rest, Follows rest → Follows (spelled x ++ rest)) (hstop : Follows stop) :
    Follows (xs.flatMap spelled ++ stop) := by
  induction xs with
  | nil => exact hstop
  | cons x xs ih =>
    rw [List.flatMap_cons, List.append_assoc]
    exact hitem x (by simp) _ (ih fun y hy => hitem y (by simp [hy]))

/-- The items of a list, one after the other, where `Follows` says what may stand after an item. -/
theorem Repeats.flatMap {α : Type} {spelled : α → List Token} {nodes : α → List Node}
    {Follows : List Token → Prop} {stop : List Token} {xs : List α}
    (hread : ∀ x ∈ xs, ∀ rest, Follows rest →
      Reads levels turns r ctx (spelled x ++ rest) (nodes x) rest)
    (hitem : ∀ x ∈ xs, ∀ rest, Follows rest → Follows (spelled x ++ rest)) (hstop : Follows stop)
    (hend : Refuses levels turns r ctx stop) (hleft : xs.length ≤ left) :
    Repeats levels turns left r ctx (xs.flatMap spelled ++ stop) (xs.flatMap nodes) stop := by
  induction xs generalizing left with
  | nil => exact hend.repeats
  | cons x xs ih =>
    obtain ⟨k, rfl⟩ : ∃ k, left = k + 1 := ⟨left - 1, by simp at hleft; omega⟩
    have hrest : Follows (xs.flatMap spelled ++ stop) :=
      follows_flatMap (fun y hy => hitem y (by simp [hy])) hstop
    have hxs := ih (fun y hy => hread y (by simp [hy])) (fun y hy => hitem y (by simp [hy]))
      (by simpa using hleft)
    rw [List.flatMap_cons, List.append_assoc, List.flatMap_cons]
    exact (hread x (by simp) _ hrest).repeats hxs

end

end Understudy.Go.Grammar

/-! ## Trivia in front -/

namespace Understudy.Go.Rule

/-- Whether a rule begins with a token wherever it matches, if the phrases that `opens` holds of
do. -/
def leads {P : Type} (opens : P → Bool) : Rule P → Bool
  | fail | token _ _ | node _ _ => true
  | seq first _ => first.leads opens
  | alt first second => first.leads opens && second.leads opens
  | role _ r | within _ r | when _ r => r.leads opens
  | phrase p => opens p
  | _ => false

/-- The reading with the node of a token in front. -/
def withFront (t : Token) (res : Reading) : Reading :=
  res.map (fun reading => (t.toNode :: reading.1, reading.2))

theorem isTrivia_toNode {t : Token} (ht : t.isTrivia = true) : t.toNode.isTrivia = true := by
  obtain ⟨kind, text⟩ := t
  cases kind <;> simp_all [Token.isTrivia, Token.toNode, Node.isTrivia, Node.kind, Kind.isTrivia]

theorem giveRole_cons_trivia {t : Token} (ht : t.isTrivia = true) (role : Role) (ns : List Node) :
    giveRole role (t.toNode :: ns) = t.toNode :: giveRole role ns := by
  simp [giveRole, isTrivia_toNode ht]

section
variable {P : Type} {opens : P → Bool} {again : Context → P → List Token → Reading} {t : Token}

/-- **Trivia in front of a rule that begins with a token** becomes a node in front of its nodes. -/
theorem run_front (ht : t.isTrivia = true)
    (hagain : ∀ p, opens p = true → ∀ ctx ts,
      again ctx p (t :: ts) = withFront t (again ctx p ts)) (turns : Nat) :
    ∀ (r : Rule P), r.leads opens = true → ∀ ctx ts,
      r.run again turns ctx (t :: ts) = withFront t (r.run again turns ctx ts)
  | fail, _, _, _ => rfl
  | token accepts kind, _, ctx, ts => by
    simp only [run_token, List.dropWhile_cons, ht, ↓reduceIte, takeTrivia_trivia ht]
    split
    · rfl
    · split <;> rfl
  | seq first second, h, ctx, ts => by
    simp only [run_seq, run_front ht hagain turns first h ctx ts]
    cases first.run again turns ctx ts with
    | none => rfl
    | some reading =>
      simp only [withFront, Option.map_some]
      split <;> rfl
  | alt first second, h, ctx, ts => by
    simp only [leads, Bool.and_eq_true] at h
    simp only [run_alt, run_front ht hagain turns first h.1 ctx ts]
    cases first.run again turns ctx ts with
    | none => exact run_front ht hagain turns second h.2 ctx ts
    | some reading => rfl
  | node kind r, _, ctx, ts => by
    simp only [run_node, takeTrivia_trivia ht]
    split <;> rfl
  | role _ r, h, ctx, ts => by
    simp only [run_role, run_front ht hagain turns r h ctx ts]
    cases r.run again turns ctx ts with
    | none => rfl
    | some reading => simp only [withFront, Option.map_some, giveRole_cons_trivia ht]
  | within change r, h, ctx, ts => run_front ht hagain turns r h (change ctx) ts
  | when test r, h, ctx, ts => by
    simp only [run_when]
    split
    · exact run_front ht hagain turns r h ctx ts
    · rfl
  | phrase p, h, ctx, ts => hagain p h ctx ts

end

end Understudy.Go.Rule

namespace Understudy.Go.Grammar

open Rule

/-- All phrases but a whole file begin with a token. -/
def opensWithToken : Phrase → Bool
  | .sourceFile => false
  | _ => true

theorem leads_rules {p : Phrase} (h : opensWithToken p = true) :
    (rules p).leads opensWithToken = true := by
  cases p <;> first | rfl | cases h

theorem read_front {t : Token} (ht : t.isTrivia = true) : ∀ (levels : Nat) (p : Phrase),
    opensWithToken p = true → ∀ ctx ts,
      Rule.read rules levels ctx p (t :: ts) = withFront t (Rule.read rules levels ctx p ts)
  | 0, _, _, _, _ => rfl
  | levels + 1, _, h, ctx, ts =>
    run_front ht (read_front ht levels) levels _ (leads_rules h) ctx ts

section
variable {levels turns : Nat} {r : GoRule} {ctx : Context} {ts rest : List Token} {ns : List Node}
  {t : Token}

theorem Reads.lead (h : Reads levels turns r ctx ts ns rest)
    (hr : r.leads opensWithToken = true) (ht : t.isTrivia = true) :
    Reads levels turns r ctx (t :: ts) (t.toNode :: ns) rest := by
  unfold Reads at *
  rw [run_front ht (read_front ht levels) turns r hr, h]
  rfl

theorem Refuses.lead (h : Refuses levels turns r ctx ts) (hr : r.leads opensWithToken = true)
    (ht : t.isTrivia = true) : Refuses levels turns r ctx (t :: ts) := by
  unfold Refuses at *
  rw [run_front ht (read_front ht levels) turns r hr, h]
  rfl

/-! ## Whole files -/

/-- A file is parsed if it is read with the levels that the bound on nesting gives. -/
theorem parse_of_reads {source : String} (hts : tokens source = ts)
    (hl : nestingBound ts.length = levels + 1)
    (h : Reads levels levels sourceFile fileContext ts ns rest) :
    parse source = some (.tree none .sourceFile ns) := by
  have hr : Rule.read rules (levels + 1) fileContext .sourceFile ts = some (ns, rest) := h
  unfold parse
  simp only [hts, hl, hr]

end

end Understudy.Go.Grammar
