import Understudy.Proofs.Module.Edits

/-!
# Where a comment is cut off

The text before the cut decides where it is; what stands behind it does not.

* `stripFrom_cut`: what stands at the cut.
* `stripFrom_stable`: it does not depend on the comment.
* `stripComment_place`: all about the place of the cut.
-/

set_option autoImplicit false

namespace Understudy.GoMod

/-! ## The cut -/

/-- `front` is the text before the first two slashes in a row, or all of it if there are none. -/
def IsBeforeSlashes (front cs : List Char) : Prop :=
  (∃ rest, cs = front ++ '/' :: '/' :: rest ∧
    ∀ before after, cs = before ++ '/' :: '/' :: after → front.length ≤ before.length) ∨
  front = cs ∧ ∀ before after, cs ≠ before ++ '/' :: '/' :: after

section
variable {quote : Option Char} {prev : Char} {cs kept rest front before after : List Char}
  {line : String}

/-- Two slashes stand where a line is cut. -/
theorem stripFrom_cut (h : stripFrom quote prev cs ≠ cs) :
    ∃ rest, cs = stripFrom quote prev cs ++ '/' :: '/' :: rest := by
  fun_induction stripFrom quote prev cs with
  | case1 => exact absurd rfl h
  | case2 prev c cs q ih =>
    obtain ⟨rest, hrest⟩ := ih (fun hkept => h (congrArg _ hkept))
    exact ⟨rest, congrArg _ hrest⟩
  | case3 prev c cs hmark =>
    obtain ⟨rfl, hhead⟩ := hmark
    obtain ⟨rest, rfl⟩ := List.head?_eq_some_iff.1 hhead
    exact ⟨rest, rfl⟩
  | case4 prev c cs hmark ih =>
    obtain ⟨rest, hrest⟩ := ih (fun hkept => h (congrArg _ hkept))
    exact ⟨rest, congrArg _ hrest⟩

/-- **What a comment says** does not matter to where it is cut off. -/
theorem stripFrom_stable (h : stripFrom quote prev (kept ++ '/' :: '/' :: rest) = kept)
    (other : List Char) : stripFrom quote prev (kept ++ '/' :: '/' :: other) = kept := by
  induction kept generalizing quote prev with
  | nil =>
    cases quote with
    | some q => cases h
    | none => simp [stripFrom]
  | cons c kept ih =>
    cases quote with
    | some q =>
      rw [List.cons_append, stripFrom] at h ⊢
      rw [ih (List.cons.inj h).2]
    | none =>
      have hhead : (kept ++ '/' :: '/' :: other).head? = (kept ++ '/' :: '/' :: rest).head? := by
        cases kept <;> rfl
      rw [List.cons_append, stripFrom] at h ⊢
      rw [hhead]
      split at h
      · cases h
      · rename_i hmark
        rw [if_neg hmark, ih (List.cons.inj h).2]

theorem stripComment_cut (h : stripComment cs ≠ cs) :
    ∃ rest, cs = stripComment cs ++ '/' :: '/' :: rest := by
  rw [stripComment_eq] at h ⊢
  exact stripFrom_cut h

theorem stripComment_stable (h : stripComment (kept ++ '/' :: '/' :: rest) = kept)
    (other : List Char) : stripComment (kept ++ '/' :: '/' :: other) = kept := by
  rw [stripComment_eq] at h ⊢
  exact stripFrom_stable h other

/-- Without quotations nothing is kept behind two slashes. -/
theorem length_stripComment_le (h : ∀ c ∈ before, isQuote c = false) :
    (stripComment (before ++ '/' :: '/' :: after)).length ≤ before.length := by
  induction before with
  | nil => simp [stripComment_comment]
  | cons c before ih =>
    rw [List.forall_mem_cons] at h
    have hrest := ih h.2
    rw [List.cons_append, stripComment_eq, stripFrom, h.1]
    split
    · simp
    · rw [if_neg (by simp), stripFrom_none, List.length_cons, List.length_cons]
      omega

theorem isBeforeSlashes_stripComment (h : ∀ c ∈ cs, isQuote c = false) :
    IsBeforeSlashes (stripComment cs) cs := by
  have hshort : ∀ before after, cs = before ++ '/' :: '/' :: after →
      (stripComment cs).length ≤ before.length := by
    rintro before after rfl
    exact length_stripComment_le fun c hc => h c (List.mem_append_left _ hc)
  by_cases hcut : stripComment cs = cs
  · refine .inr ⟨hcut, ?_⟩
    intro before after hcs
    have hlength := hshort before after hcs
    rw [hcut, hcs, List.length_append] at hlength
    simp at hlength
  · obtain ⟨rest, hrest⟩ := stripComment_cut hcut
    exact .inl ⟨rest, hrest, hshort⟩

/-- The end of a text at the front is the end of a character. -/
theorem exists_pos_of_prefix (h : front <+: line.toList) :
    ∃ p : line.Pos, p.offset.byteIdx = byteSize front ∧
      (line.sliceTo p).copy.toList = front := by
  obtain ⟨back, hback⟩ := h
  have hline : line = String.ofList front ++ String.ofList back := by
    rw [← String.ofList_append, hback, String.ofList_toList]
  have hvalid : (String.ofList front).rawEndPos.IsValid line :=
    String.Pos.Raw.isValid_iff_exists_append.2 ⟨_, _, hline, rfl⟩
  have hsplits : String.Pos.Splits ⟨_, hvalid⟩ (String.ofList front) (String.ofList back) :=
    ⟨hline, rfl⟩
  refine ⟨⟨_, hvalid⟩, rfl, ?_⟩
  rw [hsplits.copy_sliceTo_eq, String.toList_ofList]

end

/-- **Where a comment is cut off.** For every line: if the scan stops at a byte, the cut is one byte
before it, at the end of a character, so that there is a text before the cut, and this is what is
kept; otherwise all is kept. What is kept is the front of the line. If it is not all, two slashes
follow it, and with any other comment the same is kept. Nothing more is cut off what is kept. Without
quotations it is the text before the first two slashes. -/
theorem stripComment_place (line : String) :
    (∀ i, slashAt? line.toList = some i →
      firstBytes? (i - 1) line.toList = some (stripComment line.toList) ∧
      ∃ p : line.Pos, p.offset.byteIdx + 1 = i ∧
        (line.sliceTo p).copy.toList = stripComment line.toList) ∧
    (slashAt? line.toList = none → stripComment line.toList = line.toList) ∧
    stripComment line.toList <+: line.toList ∧
    (stripComment line.toList ≠ line.toList →
      (∃ rest, line.toList = stripComment line.toList ++ '/' :: '/' :: rest) ∧
      ∀ other, stripComment (stripComment line.toList ++ '/' :: '/' :: other) =
        stripComment line.toList) ∧
    stripComment (stripComment line.toList) = stripComment line.toList ∧
    ((∀ c ∈ line.toList, isQuote c = false) →
      IsBeforeSlashes (stripComment line.toList) line.toList) := by
  have hfront : stripComment line.toList <+: line.toList := by
    rw [stripComment_eq]
    exact stripFrom_prefix _ _ _
  refine ⟨?_, ?_, hfront, ?_, stripComment_idem _, isBeforeSlashes_stripComment⟩
  · intro i hi
    obtain ⟨hplace, hcut⟩ := firstBytes?_slashAt? hi
    obtain ⟨p, hp, hslice⟩ := exists_pos_of_prefix hfront
    rw [← stripComment_eq] at hplace hcut
    exact ⟨hcut, p, by rw [hp, hplace], hslice⟩
  · intro hnone
    rw [stripComment, hnone]
  · intro hcut
    obtain ⟨rest, hrest⟩ := stripComment_cut hcut
    have hsame : stripComment (stripComment line.toList ++ '/' :: '/' :: rest) =
        stripComment line.toList := congrArg stripComment hrest.symm
    exact ⟨⟨rest, hrest⟩, stripComment_stable hsame⟩

/-- A line with slashes in a quotation, a single slash and a comment that begins with a slash. -/
def quotedLine : String := "é \"//\" /é///c"

/-- A line with a single slash and a comment, without quotations. -/
def unquotedLine : String := "/é///c"

theorem quotedLine_place :
    slashAt? quotedLine.toList = some 12 ∧
      (∃ p : quotedLine.Pos, p.offset.byteIdx + 1 = 12 ∧
        (quotedLine.sliceTo p).copy.toList = "é \"//\" /é".toList) ∧
      stripComment ("é \"//\" /é".toList ++ '/' :: '/' :: "\"".toList) =
        "é \"//\" /é".toList ∧
      IsBeforeSlashes "/é".toList unquotedLine.toList := by
  have hslash : slashAt? quotedLine.toList = some 12 := by decide +kernel
  have hkept : stripComment quotedLine.toList = "é \"//\" /é".toList := by decide +kernel
  have hcut : stripComment quotedLine.toList ≠ quotedLine.toList := by decide +kernel
  have hunquoted : ∀ c ∈ unquotedLine.toList, isQuote c = false := by
    have hall : unquotedLine.toList.all (fun c => !isQuote c) = true := rfl
    intro c hc
    simpa using List.all_eq_true.1 hall c hc
  have hfront : stripComment unquotedLine.toList = "/é".toList := by decide +kernel
  obtain ⟨hplace, -, -, hstable, -, -⟩ := stripComment_place quotedLine
  obtain ⟨-, -, -, -, -, hbefore⟩ := stripComment_place unquotedLine
  rw [hkept] at hplace hstable
  rw [hfront] at hbefore
  exact ⟨hslash, (hplace 12 hslash).2, (hstable (hkept ▸ hcut)).2 _, hbefore hunquoted⟩

end Understudy.GoMod
