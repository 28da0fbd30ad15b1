import Understudy.Go.TypeShape
import Understudy.Proofs.Go.Spelling
import Understudy.Proofs.Text.Patterns

/-!
# Where the pattern of exported names matches

The pattern behind `qualify` has two groups, of which the first takes as many characters as it can
and gives some of them back if need be. There is however only one place at which the groups can part:
the first letter or digit of ASCII cannot be in the first group, and a capital, which the second
group begins with, is one. So the pattern is a scan for that letter or digit (`ScansTo`), which has
to be a capital without a dot behind it.

* `matches_needsPackage`: the only match.
* `qualifyChars_of_scansTo`, `qualifyChars_of_passed`: what is written, by where the scan stops.
* `qualifyChars_append`: what is passed over stays in front.
-/

set_option autoImplicit false

namespace Understudy.Go

open Text Pattern

/-! ## Classes of characters -/

/-- Whether the character is a letter or digit of ASCII. -/
def isAsciiAlphanumeric (c : Char) : Bool := c.isAlphanum

section
variable {c : Char}

theorem contains_iff {k : CharClass} : k.contains c = true ↔
    ((∃ r ∈ k.ranges, r.1.toNat ≤ c.toNat ∧ c.toNat ≤ r.2.toNat) ↔ k.negated = false) := by
  obtain ⟨ranges, negated⟩ := k
  cases negated <;> simp [CharClass.contains, Char.le_def, UInt32.le_iff_toNat_le]

theorem contains_capital : capital.contains c = true ↔ c.isUpper = true := by
  rw [isUpper_iff, contains_iff]
  simp [capital]

theorem contains_otherThanDot : otherThanDot.contains c = true ↔ c ≠ '.' := by
  have hcode : c = '.' ↔ 46 ≤ c.toNat ∧ c.toNat ≤ 46 := by
    rw [← Char.toNat_inj, show '.'.toNat = 46 from rfl]
    omega
  rw [contains_iff, ne_eq, hcode]
  simp [otherThanDot]

theorem contains_otherThanAlphanumeric :
    otherThanAlphanumeric.contains c = true ↔ isAsciiAlphanumeric c = false := by
  rw [← Bool.not_eq_true, isAsciiAlphanumeric, Char.isAlphanum, Bool.or_eq_true, isAlpha_iff,
    isDigit_iff, or_assoc, contains_iff]
  simp [otherThanAlphanumeric]

end

/-! ## The scan -/

/-- The scan of `cs` for a letter or digit of ASCII passes over `before` and stops at `c`, with
`after` behind it. -/
structure ScansTo (cs before : List Char) (c : Char) (after : List Char) : Prop where
  whole : cs = before ++ c :: after
  passed : ∀ d ∈ before, isAsciiAlphanumeric d = false
  stop : isAsciiAlphanumeric c = true

theorem scansTo_or_passed (cs : List Char) :
    (∃ before c after, ScansTo cs before c after) ∨ ∀ c ∈ cs, isAsciiAlphanumeric c = false := by
  cases hfind : cs.find? isAsciiAlphanumeric with
  | none => exact .inr fun c hc => Bool.eq_false_iff.2 (List.find?_eq_none.1 hfind c hc)
  | some c =>
    obtain ⟨hc, before, after, hcs, hbefore⟩ := List.find?_eq_some_iff_append.1 hfind
    exact .inl ⟨before, c, after, hcs, fun d hd => by simpa using hbefore d hd, hc⟩

section
variable {package cs before before' after after' ws : List Char} {c c' : Char}

theorem passed_of_all (h : (cs.all fun c => !isAsciiAlphanumeric c) = true) :
    ∀ c ∈ cs, isAsciiAlphanumeric c = false := by
  simpa using h

theorem find?_eq_none_of_passed (h : ∀ c ∈ cs, isAsciiAlphanumeric c = false) :
    cs.find? isAsciiAlphanumeric = none :=
  List.find?_eq_none.2 fun c hc => by simp [h c hc]

namespace ScansTo

theorem find?_eq (h : ScansTo cs before c after) : cs.find? isAsciiAlphanumeric = some c := by
  rw [h.whole, List.find?_append, find?_eq_none_of_passed h.passed, Option.none_or,
    List.find?_cons_of_pos h.stop]

theorem takeWhile_eq (h : ScansTo cs before c after) :
    cs.takeWhile (fun c => !isAsciiAlphanumeric c) = before := by
  rw [h.whole, List.takeWhile_append_of_pos (by simpa using h.passed),
    List.takeWhile_cons_of_neg (by simp [h.stop]), List.append_nil]

/-- **The scan stops at one place only.** -/
theorem unique (h : ScansTo cs before c after) (h' : ScansTo cs before' c' after') :
    before = before' ∧ c = c' ∧ after = after' := by
  obtain rfl : before = before' := h.takeWhile_eq.symm.trans h'.takeWhile_eq
  have hrest := List.append_cancel_left (h.whole.symm.trans h'.whole)
  exact ⟨rfl, List.cons.inj hrest⟩

theorem prepend (h : ScansTo cs before c after) (hws : ∀ d ∈ ws, isAsciiAlphanumeric d = false) :
    ScansTo (ws ++ cs) (ws ++ before) c after := by
  refine ⟨by rw [h.whole, List.append_assoc], fun d hd => ?_, h.stop⟩
  rcases List.mem_append.1 hd with hd | hd
  · exact hws d hd
  · exact h.passed d hd

theorem extend (h : ScansTo cs before c after) (rest : List Char) :
    ScansTo (cs ++ rest) before c (after ++ rest) :=
  ⟨by rw [h.whole, List.append_assoc, List.cons_append], h.passed, h.stop⟩

end ScansTo

/-! ## The match -/

theorem isAnchored_needsPackage : IsAnchored needsPackage := isAnchored_seq_start _

theorem isAsciiAlphanumeric_of_isUpper (h : c.isUpper = true) : isAsciiAlphanumeric c = true := by
  have halpha : c.isAlpha = true := isAlpha_iff.2 (.inl (isUpper_iff.1 h))
  simp [isAsciiAlphanumeric, Char.isAlphanum, halpha]

theorem matches_leading {p q : Cursor} :
    Matches (.group 1 (.many (.one otherThanAlphanumeric))) p q ↔
      ∃ before rest, p.after = before ++ rest ∧ (∀ d ∈ before, isAsciiAlphanumeric d = false) ∧
        q = ⟨before.reverse ++ p.before, rest, (1, before) :: p.groups⟩ := by
  simp only [matches_group, matches_many_one, contains_otherThanAlphanumeric]
  constructor
  · rintro ⟨_, ⟨before, rest, hafter, hpassed, rfl⟩, rfl⟩
    exact ⟨before, rest, hafter, hpassed, by rw [Cursor.keep, upTo_of_append hafter]⟩
  · rintro ⟨before, rest, hafter, hpassed, rfl⟩
    exact ⟨_, ⟨before, rest, hafter, hpassed, rfl⟩, by rw [Cursor.keep, upTo_of_append hafter]⟩

theorem matches_exported {p q : Cursor} :
    Matches (.group 2 (.seq (.one capital) (.many (.one otherThanDot)))) p q ↔
      ∃ c after rest, p.after = c :: after ++ rest ∧ c.isUpper = true ∧ '.' ∉ after ∧
        q = ⟨(c :: after).reverse ++ p.before, rest, (2, c :: after) :: p.groups⟩ := by
  have hdots : ∀ after : List Char, (∀ d ∈ after, d ≠ '.') ↔ '.' ∉ after := fun after =>
    ⟨fun h hmem => h _ hmem rfl, fun h d hd hdot => h (hdot ▸ hd)⟩
  have hkeep : ∀ {c : Char} {after rest : List Char}, p.after = c :: after ++ rest →
      p.keep 2 ⟨after.reverse ++ c :: p.before, rest, p.groups⟩ =
        ⟨(c :: after).reverse ++ p.before, rest, (2, c :: after) :: p.groups⟩ := by
    intro c after rest hafter
    rw [Cursor.keep, upTo_of_append hafter, List.reverse_cons, List.append_assoc,
      List.singleton_append]
  simp only [matches_group, matches_seq, matches_one, matches_many_one, contains_capital,
    contains_otherThanDot, hdots]
  constructor
  · rintro ⟨_, ⟨_, ⟨c, _, hafter, hc, rfl⟩, after, rest, rfl, hdot, rfl⟩, rfl⟩
    exact ⟨c, after, rest, hafter, hc, hdot, hkeep hafter⟩
  · rintro ⟨c, after, rest, hafter, hc, hdot, rfl⟩
    exact ⟨_, ⟨_, ⟨c, _, hafter, hc, rfl⟩, after, rest, rfl, hdot, rfl⟩, (hkeep hafter).symm⟩

/-- **The pattern matches in one way at most**: its first group is what the scan passes over, and its
second group begins where the scan stops. -/
theorem matches_needsPackage {q : Cursor} : Matches needsPackage ⟨[], cs, []⟩ q ↔
    ∃ before c after, ScansTo cs before c after ∧ c.isUpper = true ∧ '.' ∉ after ∧
      q = ⟨cs.reverse, [], [(2, c :: after), (1, before)]⟩ := by
  simp only [needsPackage, matches_seq, matches_start, matches_leading, matches_exported,
    matches_stop]
  constructor
  · rintro ⟨_, ⟨-, rfl⟩, _, ⟨before, _, hcs, hpassed, rfl⟩, _,
      ⟨c, after, _, rfl, hc, hdot, rfl⟩, rfl, rfl⟩
    rw [List.append_nil] at hcs
    refine ⟨before, c, after, ⟨hcs, hpassed, isAsciiAlphanumeric_of_isUpper hc⟩, hc, hdot, ?_⟩
    simp [show cs = _ from hcs]
  · rintro ⟨before, c, after, hscan, hc, hdot, rfl⟩
    exact ⟨_, ⟨trivial, rfl⟩, _, ⟨before, _, hscan.whole, hscan.passed, rfl⟩, _,
      ⟨c, after, [], (List.append_nil _).symm, hc, hdot, rfl⟩, rfl, by simp [hscan.whole]⟩

/-- Two matches from the beginning of a text are the same. -/
theorem matches_needsPackage_unique {q q' : Cursor} (h : Matches needsPackage ⟨[], cs, []⟩ q)
    (h' : Matches needsPackage ⟨[], cs, []⟩ q') : q = q' := by
  obtain ⟨before, c, after, hscan, -, -, rfl⟩ := matches_needsPackage.1 h
  obtain ⟨before', c', after', hscan', -, -, rfl⟩ := matches_needsPackage.1 h'
  obtain ⟨rfl, rfl, rfl⟩ := hscan.unique hscan'
  rfl

/-! ## What is written -/

theorem qualifyChars_of_passed (h : ∀ c ∈ cs, isAsciiAlphanumeric c = false) :
    qualifyChars package cs = cs := by
  have hnone : needsPackage.captures cs = none := by
    refine isAnchored_needsPackage.captures_of_none fun q hq => ?_
    obtain ⟨before, c, after, hscan, -⟩ := matches_needsPackage.1 hq
    have hc : isAsciiAlphanumeric c = false := h c (by simp [hscan.whole])
    exact Bool.eq_false_iff.1 hc hscan.stop
  rw [qualifyChars, hnone]

/-- **The package is written where the scan stops**: before one of `A` to `Z` with no dot behind
it. -/
theorem qualifyChars_of_scansTo (h : ScansTo cs before c after) :
    qualifyChars package cs =
      if c.isUpper = true ∧ '.' ∉ after then before ++ package ++ '.' :: c :: after else cs := by
  split
  · rename_i hwritten
    have hmatch := matches_needsPackage.2 ⟨before, c, after, h, hwritten.1, hwritten.2, rfl⟩
    have hcaptures := isAnchored_needsPackage.captures_of_unique hmatch fun q' hq' =>
      matches_needsPackage_unique hq' hmatch
    rw [qualifyChars, hcaptures]
    rfl
  · rename_i hleft
    have hnone : needsPackage.captures cs = none := by
      refine isAnchored_needsPackage.captures_of_none fun q hq => hleft ?_
      obtain ⟨before', c', after', hscan', hupper, hdot, -⟩ := matches_needsPackage.1 hq
      obtain ⟨-, rfl, rfl⟩ := h.unique hscan'
      exact ⟨hupper, hdot⟩
    rw [qualifyChars, hnone]

theorem qualifyChars_append (hws : ∀ d ∈ ws, isAsciiAlphanumeric d = false) :
    qualifyChars package (ws ++ cs) = ws ++ qualifyChars package cs := by
  rcases scansTo_or_passed cs with ⟨before, c, after, hscan⟩ | hpassed
  · rw [qualifyChars_of_scansTo (hscan.prepend hws), qualifyChars_of_scansTo hscan]
    split
    · simp only [List.append_assoc]
    · rfl
  · rw [qualifyChars_of_passed hpassed, qualifyChars_of_passed]
    intro d hd
    exact (List.mem_append.1 hd).elim (hws d) (hpassed d)

theorem qualifyChars_cons (hc : isAsciiAlphanumeric c = false) :
    qualifyChars package (c :: cs) = c :: qualifyChars package cs :=
  qualifyChars_append (List.forall_mem_singleton.2 hc)

/-- A text that begins with a letter has nothing before its name. -/
theorem qualifyChars_name (hc : c.isAlpha = true) : qualifyChars package (c :: cs) =
    if c.isUpper && !(c :: cs).contains '.' then package ++ '.' :: c :: cs else c :: cs := by
  have hscan : ScansTo (c :: cs) [] c cs :=
    ⟨rfl, by simp, by simp [isAsciiAlphanumeric, Char.isAlphanum, hc]⟩
  have hdot : '.' ≠ c := by
    rintro rfl
    exact absurd hc (by decide)
  rw [qualifyChars_of_scansTo hscan]
  simp [hdot]

theorem exists_scansTo_of_changed (h : qualifyChars package cs ≠ cs) :
    ∃ before c after, ScansTo cs before c after ∧ c.isUpper = true ∧ '.' ∉ after ∧
      qualifyChars package cs = before ++ package ++ '.' :: c :: after := by
  rcases scansTo_or_passed cs with ⟨before, c, after, hscan⟩ | hpassed
  · rw [qualifyChars_of_scansTo hscan] at h ⊢
    split at h
    · rename_i hwritten
      exact ⟨before, c, after, hscan, hwritten.1, hwritten.2, if_pos hwritten⟩
    · exact absurd rfl h
  · exact absurd (qualifyChars_of_passed hpassed) h

end

theorem toList_qualify (package text : String) :
    (qualify package text).toList = qualifyChars package.toList text.toList := by
  simp [qualify]

end Understudy.Go
