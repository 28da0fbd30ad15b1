import Understudy.Module.GoMod

/-!
# Scanning for a comment

A comment begins with two slashes, and the second one tells that the first one began it. The scan
remembers one character, finds the second slash and goes back by one, which is safe because a slash
is one byte long. To look ahead for the second slash instead (`stripFrom`) comes to the same, and
says which characters are kept without counting bytes.

* `stripFrom`: what is kept, by looking ahead.
* `slashFrom_eq`: the scan stops one byte behind the end of what is kept.
* `stripComment_eq`: a line without its comment is what is kept.
-/

set_option autoImplicit false

namespace Understudy.GoMod

/-- The line up to the first `//` outside quotations. `quote` is the quotation that is open and
`prev` the character before the rest of the line. -/
def stripFrom (quote : Option Char) (prev : Char) : List Char → List Char
  | [] => []
  | c :: cs =>
    match quote with
    | some q => c :: stripFrom (afterQuoted q prev c) c cs
    | none =>
      if c = '/' ∧ cs.head? = some '/' then []
      else c :: stripFrom (if isQuote c then some c else none) c cs

theorem stripFrom_prefix (quote : Option Char) (prev : Char) (cs : List Char) :
    stripFrom quote prev cs <+: cs := by
  fun_induction stripFrom quote prev cs with
  | case1 => exact List.prefix_rfl
  | case2 _ c cs q ih => exact List.cons_prefix_cons.2 ⟨rfl, ih⟩
  | case3 => exact List.nil_prefix
  | case4 _ c cs _ ih => exact List.cons_prefix_cons.2 ⟨rfl, ih⟩

/-- What stands before a text matters only where a quotation is open. -/
theorem stripFrom_prev (prev prev' : Char) (cs : List Char) :
    stripFrom none prev cs = stripFrom none prev' cs := by
  cases cs <;> rfl

theorem ne_slash_of_isQuote {q : Char} (h : isQuote q = true) : q ≠ '/' := by
  rintro rfl
  cases h

/-! ## The scan -/

/-- The slash that has been read and may still turn out to begin a comment. -/
def heldSlash (quote : Option Char) (prev : Char) : List Char :=
  if quote = none ∧ prev = '/' then ['/'] else []

/-- The number of bytes that the characters take. -/
def byteSize (cs : List Char) : Nat := (String.ofList cs).utf8ByteSize

/-- The byte behind the end of what is kept of characters from offset `i` on, if not all is kept. -/
def cutFrom (quote : Option Char) (prev : Char) (i : Nat) (cs : List Char) : Option Nat :=
  if stripFrom quote prev cs = cs then none
  else some (i + byteSize (stripFrom quote prev cs) + 1)

section
variable {quote : Option Char} {c q prev : Char} {cs : List Char}

theorem byteSize_cons (c : Char) (cs : List Char) :
    byteSize (c :: cs) = c.utf8Size + byteSize cs := by
  have hsplit : String.ofList (c :: cs) = String.singleton c ++ String.ofList cs := by
    rw [String.singleton_eq_ofList, ← String.ofList_append]
    rfl
  rw [byteSize, hsplit, String.utf8ByteSize_append, String.utf8ByteSize_singleton]
  rfl

@[simp] theorem byteSize_nil : byteSize [] = 0 := rfl

/-- A slash is one byte long. -/
theorem byteSize_slash : byteSize ['/'] = 1 := rfl

theorem cutFrom_quoted (q prev c : Char) (i : Nat) (cs : List Char) :
    cutFrom (some q) prev i (c :: cs) = cutFrom (afterQuoted q prev c) c (i + c.utf8Size) cs := by
  simp only [cutFrom, stripFrom, List.cons.injEq, true_and, byteSize_cons, Nat.add_assoc]

theorem cutFrom_kept (h : ¬ (c = '/' ∧ cs.head? = some '/')) (prev : Char) (i : Nat) :
    cutFrom none prev i (c :: cs) =
      cutFrom (if isQuote c then some c else none) c (i + c.utf8Size) cs := by
  simp only [cutFrom, stripFrom, if_neg h, List.cons.injEq, true_and, byteSize_cons,
    Nat.add_assoc]

theorem cutFrom_mark (prev : Char) (i : Nat) (cs : List Char) :
    cutFrom none prev i ('/' :: '/' :: cs) = some (i + 1) := by
  simp [cutFrom, stripFrom]

theorem cutFrom_none (prev prev' : Char) (i : Nat) (cs : List Char) :
    cutFrom none prev i cs = cutFrom none prev' i cs := by
  rw [cutFrom, cutFrom, stripFrom_prev prev prev']

theorem heldSlash_of_ne (h : c ≠ '/') (quote : Option Char) : heldSlash quote c = [] := by
  simp [heldSlash, h]

/-- Where a quotation is left, no slash has just been read. -/
theorem heldSlash_afterQuoted (hq : isQuote q = true) (prev c : Char) :
    heldSlash (afterQuoted q prev c) c = [] := by
  unfold afterQuoted
  split
  · rename_i hclose
    exact heldSlash_of_ne (hclose.1 ▸ ne_slash_of_isQuote hq) none
  · simp [heldSlash]

/-- A slash that is held back does not matter any more if no slash follows it. -/
theorem cutFrom_release (h : cs.head? ≠ some '/') (prev : Char) (i : Nat) :
    cutFrom none prev i (heldSlash none prev ++ cs) =
      cutFrom none prev (i + byteSize (heldSlash none prev)) cs := by
  unfold heldSlash
  split
  · rename_i hheld
    rw [List.singleton_append, cutFrom_kept (fun hmark => h hmark.2), hheld.2]
    rfl
  · rfl

theorem isQuote_of_mem_afterQuoted (hq : isQuote q = true) (prev c : Char) :
    ∀ q' ∈ afterQuoted q prev c, isQuote q' = true := by
  intro q' hq'
  unfold afterQuoted at hq'
  split at hq'
  · cases hq'
  · cases hq'
    exact hq

/-- **The scan stops** one byte behind the end of what is kept. A slash that it holds back has been
read by the scan, and is still ahead of the cut. -/
theorem slashFrom_eq (hquote : ∀ q ∈ quote, isQuote q = true) (i : Nat) :
    slashFrom quote prev (i + byteSize (heldSlash quote prev)) cs =
      cutFrom quote prev i (heldSlash quote prev ++ cs) := by
  induction cs generalizing quote prev i with
  | nil =>
    have hkept : stripFrom quote prev (heldSlash quote prev) = heldSlash quote prev := by
      unfold heldSlash
      split
      · rename_i hheld
        rw [hheld.1]
        rfl
      · rfl
    simp [slashFrom, cutFrom, hkept]
  | cons c cs ih =>
    cases quote with
    | some q =>
      have hq : isQuote q = true := hquote q rfl
      have hnext := @ih _ c (isQuote_of_mem_afterQuoted hq prev c) (i + c.utf8Size)
      rw [heldSlash_afterQuoted hq] at hnext
      simpa [heldSlash, slashFrom, cutFrom_quoted] using hnext
    | none =>
      by_cases hc : c = '/'
      · subst hc
        by_cases hprev : prev = '/'
        · subst hprev
          simp [heldSlash, slashFrom, cutFrom_mark, byteSize_slash, isQuote]
        · -- The first slash is held back, and the next character decides.
          have hnext := @ih none '/' hquote i
          rw [cutFrom_none '/' prev] at hnext
          rw [show byteSize (heldSlash none '/') = '/'.utf8Size from rfl] at hnext
          simpa [heldSlash, slashFrom, hprev, isQuote] using hnext
      · have hhead : (c :: cs).head? ≠ some '/' := by simpa using hc
        have hopen : ∀ q ∈ (if isQuote c then some c else none : Option Char),
            isQuote q = true := by
          intro q hq
          split at hq <;> simp_all
        have hnext := @ih _ c hopen (i + byteSize (heldSlash none prev) + c.utf8Size)
        rw [heldSlash_of_ne hc] at hnext
        rw [cutFrom_release hhead, cutFrom_kept (fun hmark => hc hmark.1)]
        simp only [List.nil_append] at hnext
        rw [← hnext]
        simp only [slashFrom, hc]
        split <;> simp

end

/-! ## The cut -/

theorem firstBytes?_append (front back : List Char) :
    firstBytes? (byteSize front) (front ++ back) = some front := by
  induction front with
  | nil => rw [byteSize_nil, firstBytes?]
  | cons c front ih =>
    obtain ⟨n, hn⟩ : ∃ n, byteSize (c :: front) = n + 1 :=
      Nat.exists_eq_add_one.2 (by
        rw [byteSize_cons]
        exact Nat.add_pos_left c.utf8Size_pos _)
    have hrest : n + 1 - c.utf8Size = byteSize front := by
      rw [← hn, byteSize_cons, Nat.add_sub_cancel_left]
    have hfits : c.utf8Size ≤ n + 1 := by
      rw [← hn, byteSize_cons]
      exact Nat.le_add_right _ _
    rw [hn, List.cons_append, firstBytes?, if_pos hfits, hrest, ih, Option.map_some]

theorem slashAt?_eq (line : List Char) : slashAt? line = cutFrom none '\x00' 0 line :=
  slashFrom_eq (by simp) 0

/-- **The cut** is at the end of a character, right behind what is kept. -/
theorem firstBytes?_slashAt? {line : List Char} {i : Nat} (h : slashAt? line = some i) :
    i = byteSize (stripFrom none '\x00' line) + 1 ∧
      firstBytes? (i - 1) line = some (stripFrom none '\x00' line) := by
  rw [slashAt?_eq, cutFrom] at h
  split at h
  · cases h
  · obtain rfl := Option.some.inj h
    obtain ⟨back, hback⟩ := stripFrom_prefix none '\x00' line
    refine ⟨by rw [Nat.zero_add], ?_⟩
    have hcut := firstBytes?_append (stripFrom none '\x00' line) back
    rwa [hback, ← Nat.add_sub_cancel (byteSize _) 1, ← Nat.zero_add (byteSize _)] at hcut

theorem stripComment_eq (line : List Char) : stripComment line = stripFrom none '\x00' line := by
  rw [stripComment]
  cases hscan : slashAt? line with
  | none =>
    rw [slashAt?_eq, cutFrom] at hscan
    split at hscan
    · rename_i hkept
      exact hkept.symm
    · cases hscan
  | some i => simp only [(firstBytes?_slashAt? hscan).2, Option.getD_some]

theorem stripFrom_none (prev : Char) (cs : List Char) :
    stripFrom none prev cs = stripComment cs := by
  rw [stripComment_eq, stripFrom_prev]

end Understudy.GoMod
