import Understudy.Proofs.Go.Literals
import Understudy.Proofs.Go.Literals.Elements

/-!
# The meaning of string literals

A body is read if it is a row of elements, and then means the bytes that these denote. Otherwise the
elements go on up to some place, and the fault there is the one that is reported.

* `unescape_eq_ok_iff`: which bodies are read, and as what.
* `DenotesAll.length_le`, `LongestRun.exists_fault`: elements are told apart in one way only, so the
  fault stands behind the longest row of them.
* `unquote_eq_ok_iff`: the literals and what they mean.
* `unquote_leftmost_fault`: what is reported about a literal without a meaning.
-/

set_option autoImplicit false

namespace Understudy.Go

namespace StringLiteral

/-! ## Rows of elements -/

/-- The characters are a row of elements. -/
def IsWellFormed (body : List Char) : Prop := ∃ bytes, DenotesAll body bytes

/-- `run` is the longest row of elements that `body` starts with, and `rest` follows it. -/
structure LongestRun (body run rest : List Char) : Prop where
  whole : body = run ++ rest
  wellFormed : IsWellFormed run
  longest : ∀ run' rest', body = run' ++ rest' → IsWellFormed run' → run'.length ≤ run.length

section
variable {c : Char} {cs e body run rest : List Char} {bytes more : List UInt8} {err : LiteralError}

theorem exists_of_element (h : element c cs = .ok (bytes, rest)) :
    ∃ e, c :: cs = e ++ rest ∧ Denotes e bytes := by
  have hverdict := verdict_element c cs
  rw [h] at hverdict
  cases hverdict with
  | element hcs he => exact ⟨_, hcs, he⟩

theorem unescape_of_ok (h : element c cs = .ok (bytes, rest)) :
    unescape (c :: cs) = (unescape rest).map (bytes ++ ·) := by
  rw [unescape]
  split
  · rename_i heq
    cases h.symm.trans heq
  · rename_i heq
    cases h.symm.trans heq
    cases unescape rest <;> rfl

theorem unescape_of_error (h : element c cs = .error err) : unescape (c :: cs) = .error err := by
  rw [unescape]
  split
  · rename_i heq
    cases h.symm.trans heq
    rfl
  · rename_i heq
    cases h.symm.trans heq

/-- **A row of elements** is read as what it denotes, whatever follows it. -/
theorem DenotesAll.unescape_append (h : DenotesAll run bytes) (rest : List Char) :
    unescape (run ++ rest) = (unescape rest).map (bytes ++ ·) := by
  induction h with
  | nil =>
    rw [List.nil_append]
    cases unescape rest <;> rfl
  | @cons e body bytes more he _ ih =>
    obtain ⟨c, cs, rfl, hread⟩ := element_of_denotes he (body ++ rest)
    rw [List.append_assoc, List.cons_append, unescape_of_ok hread, ih]
    cases unescape rest with
    | error => rfl
    | ok more => simp [Except.map]

theorem DenotesAll.concat (h : DenotesAll run bytes) (he : Denotes e more) :
    DenotesAll (run ++ e) (bytes ++ more) := by
  induction h with
  | nil => simpa using DenotesAll.cons he .nil
  | cons hfirst _ ih =>
    rw [List.append_assoc, List.append_assoc]
    exact .cons hfirst ih

/-- **A body is read** exactly if it is a row of elements. -/
theorem unescape_eq_ok_iff : unescape body = .ok bytes ↔ DenotesAll body bytes := by
  constructor
  · intro h
    fun_induction unescape body generalizing bytes with
    | case1 =>
      cases h
      exact .nil
    | case2 => cases h
    | case3 => cases h
    | case4 c cs first rest hread more hmore ih =>
      cases h
      obtain ⟨e, hcs, hfirst⟩ := exists_of_element hread
      rw [hcs]
      exact .cons hfirst (ih hmore)
  · intro h
    have hread := h.unescape_append []
    rw [List.append_nil, unescape] at hread
    rw [hread]
    simp [Except.map]

/-- The elements of a row are told apart in one way only. -/
theorem DenotesAll.length_le {run' rest' : List Char} {bytes' : List UInt8}
    (h : DenotesAll run bytes) (h' : DenotesAll run' bytes') (heq : run ++ rest = run' ++ rest')
    (hrest : ∀ e tail bs, rest = e ++ tail → ¬ Denotes e bs) : run'.length ≤ run.length := by
  induction h generalizing run' bytes' with
  | nil =>
    cases h' with
    | nil => exact Nat.le_refl _
    | cons he _ =>
      rw [List.nil_append, List.append_assoc] at heq
      exact absurd he (hrest _ _ _ heq)
  | @cons e body _ _ he _ ih =>
    cases h' with
    | nil => exact Nat.zero_le _
    | @cons e' body' _ _ he' hbody' =>
      rw [List.append_assoc, List.append_assoc] at heq
      -- Both rows begin with what is read first, so the same characters are left behind it.
      obtain ⟨c, cs, rfl, hread⟩ := element_of_denotes he (body ++ rest)
      obtain ⟨c', cs', rfl, hread'⟩ := element_of_denotes he' (body' ++ rest')
      rw [List.cons_append, List.cons_append] at heq
      obtain ⟨rfl, hcs⟩ := List.cons.inj heq
      rw [hcs, hread'] at hread
      have hleft : body ++ rest = body' ++ rest' := by
        injection hread with hpair
        exact (Prod.mk.inj hpair).2.symm
      have hfront : cs = cs' := by
        rw [hleft] at hcs
        exact List.append_cancel_right hcs
      have hle := ih hbody' hleft
      rw [List.length_append, List.length_append, hfront]
      omega

/-- A row of elements in front of a fault is the longest one. -/
theorem longestRun_of_error (hrun : IsWellFormed run) (h : element c cs = .error err) :
    LongestRun (run ++ c :: cs) run (c :: cs) := by
  obtain ⟨bytes, hrun⟩ := hrun
  refine ⟨rfl, ⟨bytes, hrun⟩, fun run' rest' heq ⟨bytes', hrun'⟩ => ?_⟩
  refine hrun.length_le hrun' heq fun e tail bs hcs he => ?_
  obtain ⟨x, xs, rfl, hread⟩ := element_of_denotes he tail
  rw [List.cons_append] at hcs
  obtain ⟨rfl, rfl⟩ := List.cons.inj hcs
  cases h.symm.trans hread

theorem exists_run_of_error (h : unescape body = .error err) :
    ∃ run c cs, body = run ++ c :: cs ∧ IsWellFormed run ∧ element c cs = .error err := by
  fun_induction unescape body with
  | case1 => cases h
  | case2 c cs err' hread =>
    cases h
    exact ⟨[], c, cs, rfl, ⟨[], .nil⟩, hread⟩
  | case3 c cs first rest hread err' herr ih =>
    cases h
    obtain ⟨e, hcs, hfirst⟩ := exists_of_element hread
    obtain ⟨run, x, xs, rfl, ⟨bytes, hrun⟩, hx⟩ := ih herr
    exact ⟨e ++ run, x, xs, by rw [hcs, List.append_assoc], ⟨_, .cons hfirst hrun⟩, hx⟩
  | case4 => cases h

theorem exists_longestRun (body : List Char) : ∃ run rest, LongestRun body run rest := by
  cases hread : unescape body with
  | error err =>
    obtain ⟨run, c, cs, rfl, hrun, hfault⟩ := exists_run_of_error hread
    exact ⟨run, c :: cs, longestRun_of_error hrun hfault⟩
  | ok bytes =>
    refine ⟨body, [], (List.append_nil _).symm, ⟨bytes, unescape_eq_ok_iff.1 hread⟩, ?_⟩
    rintro run' rest' rfl _
    rw [List.length_append]
    omega

/-- **The fault of a body** is the one behind its longest row of elements. -/
theorem LongestRun.exists_fault (h : LongestRun body run rest) (hbody : ¬ IsWellFormed body) :
    ∃ c cs err, rest = c :: cs ∧ element c cs = .error err ∧ unescape body = .error err := by
  obtain ⟨bytes, hrun⟩ := h.wellFormed
  cases rest with
  | nil =>
    have hwhole := h.whole
    rw [List.append_nil] at hwhole
    exact absurd ⟨bytes, hwhole ▸ hrun⟩ hbody
  | cons c cs =>
    cases hread : element c cs with
    | ok reading =>
      -- The row could be continued, so it would not be the longest.
      obtain ⟨e, hcs, he⟩ := exists_of_element hread
      have hlong := h.longest (run ++ e) reading.2 (by rw [h.whole, hcs, List.append_assoc])
        ⟨_, hrun.concat he⟩
      obtain ⟨x, xs, rfl, _⟩ := element_of_denotes he []
      rw [List.length_append, List.length_cons] at hlong
      omega
    | error err =>
      refine ⟨c, cs, err, rfl, hread, ?_⟩
      rw [h.whole, hrun.unescape_append, unescape_of_error hread]
      rfl

end

/-! ## Literals -/

/-- The text that a body denotes. -/
theorem interpretedValue_eq_ok_iff {body : List Char} {s : String} :
    interpretedValue body = .ok s ↔ DenotesAll body (s.toList.flatMap String.utf8EncodeChar) := by
  rw [interpretedValue, ← unescape_eq_ok_iff]
  cases unescape body with
  | error err => simp
  | ok bytes =>
    rw [Except.ok.injEq, ← fromUTF8?_eq_some_iff]
    cases htext : String.fromUTF8? bytes.toByteArray <;> simp [htext]

theorem interpretedValue_of_error {body : List Char} {err : LiteralError}
    (h : unescape body = .error err) : interpretedValue body = .error err := by
  rw [interpretedValue, h]

theorem FaultOf.ne_notUtf8 {cs : List Char} {err : LiteralError} (h : FaultOf cs err) :
    err ≠ .notUtf8 := by
  cases h <;> simp

theorem interpretedValue_eq_notUtf8_iff {body : List Char} :
    interpretedValue body = .error .notUtf8 ↔ ∃ bytes, DenotesAll body bytes ∧
      ∀ s : String, bytes ≠ s.toList.flatMap String.utf8EncodeChar := by
  simp only [← unescape_eq_ok_iff, ne_eq, ← fromUTF8?_eq_some_iff,
    ← Option.eq_none_iff_forall_ne_some]
  rw [interpretedValue]
  cases hread : unescape body with
  | error err =>
    obtain ⟨_, _, _, _, _, hfault⟩ := exists_run_of_error hread
    simp [(faultOf_of_element hfault).ne_notUtf8]
  | ok bytes => cases htext : String.fromUTF8? bytes.toByteArray <;> simp [htext]

theorem rawValue_eq_ok_iff {body : List Char} {s : String} :
    rawValue body = .ok s ↔ '`' ∉ body ∧ s.toList = body.filter (· != '\r') := by
  rw [rawValue]
  split
  · rename_i hmem
    simp [List.contains_iff_mem.1 hmem]
  · rename_i hmem
    rw [List.contains_iff_mem] at hmem
    rw [Except.ok.injEq, ← String.toList_inj, String.toList_ofList, and_iff_right hmem, eq_comm]

end StringLiteral

open StringLiteral

/-- **The literals and their meaning.** A raw literal stands for its body without the carriage
returns. An interpreted one stands for the text whose encoding its elements denote together, so that
a character may be spelled by itself, by its code point, or byte by byte. -/
theorem unquote_eq_ok_iff (literal s : String) :
    unquote literal = .ok s ↔
      (∃ body, literal.toList = '`' :: (body ++ ['`']) ∧ '`' ∉ body ∧
        s.toList = body.filter (· != '\r')) ∨
      ∃ body, literal.toList = '"' :: (body ++ ['"']) ∧
        DenotesAll body (s.toList.flatMap String.utf8EncodeChar) := by
  simp only [← interpretedValue_eq_ok_iff, ← rawValue_eq_ok_iff]
  rw [unquote]
  constructor
  · intro h
    split at h
    · cases h
    · rename_i quote rest hliteral
      split at h
      · rename_i hquotes
        split at h
        · rename_i hlast
          obtain ⟨body, rfl⟩ := List.getLast?_eq_some_iff.1 hlast
          rw [List.dropLast_concat] at h
          split at h
          · rename_i hquote
            subst hquote
            exact .inl ⟨body, hliteral, h⟩
          · rename_i hquote
            obtain rfl := hquotes.resolve_right hquote
            exact .inr ⟨body, hliteral, h⟩
        · cases h
      · cases h
  · rintro (⟨body, hliteral, h⟩ | ⟨body, hliteral, h⟩)
    · simpa [hliteral] using h
    · simpa [hliteral] using h

example : unquote "\"caf\\xc3\\251\"" = .ok "café" := by cbv

/-- **The leftmost fault.** A body that is no row of elements is refused for what stands behind the
longest row that it starts with. What follows the element at fault does not matter, unless the fault
is that nothing follows. Whether the bytes are an encoding is asked last. -/
theorem unquote_leftmost_fault (body : String) :
    (∃ run rest, LongestRun body.toList run rest) ∧
    (∀ run rest, LongestRun body.toList run rest → ¬ IsWellFormed body.toList →
      ∃ err, unquote (quoted body) = .error err ∧ (∀ err', FaultOf rest err' ↔ err' = err) ∧
        ((∃ f tail, rest = f ++ tail ∧ Faulty f err ∧ ∀ tail' : List Char,
          unquote (quoted (String.ofList (run ++ f ++ tail'))) = .error err) ∨ CutOff rest err)) ∧
    (unquote (quoted body) = .error .notUtf8 ↔ ∃ bytes, DenotesAll body.toList bytes ∧
      ∀ s : String, bytes ≠ s.toList.flatMap String.utf8EncodeChar) := by
  refine ⟨exists_longestRun _, ?_, ?_⟩
  · intro run rest hlongest hbody
    obtain ⟨c, cs, err, rfl, hread, hwhole⟩ := hlongest.exists_fault hbody
    have hfault := faultOf_of_element hread
    refine ⟨err, ?_, fun err' => ⟨fun h => h.unique hfault, fun h => h ▸ hfault⟩, ?_⟩
    · rw [unquote_quoted_eq, interpretedValue_of_error hwhole]
    · have hverdict := verdict_element c cs
      rw [hread] at hverdict
      cases hverdict with
      | @faulty f tail _ hcs hf =>
        refine .inl ⟨f, tail, hcs, hf, fun tail' => ?_⟩
        obtain ⟨bytes, hrun⟩ := hlongest.wellFormed
        obtain ⟨x, xs, rfl, hread'⟩ := element_of_faulty hf tail'
        rw [unquote_quoted_eq, String.toList_ofList]
        apply interpretedValue_of_error
        rw [List.append_assoc, hrun.unescape_append, List.cons_append, unescape_of_error hread']
        rfl
      | cutOff hcut => exact .inr hcut
  · rw [unquote_quoted_eq, interpretedValue_eq_notUtf8_iff]

/-- A body with an escape that breaks off at its third digit, and a second fault behind it. -/
def brokenBody : String := "caf\\xc3\\251\\u12g\""

theorem brokenBody_fault :
    LongestRun brokenBody.toList "caf\\xc3\\251".toList "\\u12g\"".toList ∧
      ¬ IsWellFormed brokenBody.toList ∧
      unquote (quoted brokenBody) = .error (.badEscape 'u') := by
  have hread : element '\\' "u12g\"".toList = .error (.badEscape 'u') := by cbv
  have hrun : IsWellFormed "caf\\xc3\\251".toList :=
    ⟨"café".toList.flatMap String.utf8EncodeChar, unescape_eq_ok_iff.1 (by cbv)⟩
  have hlongest := longestRun_of_error hrun hread
  have hbody : ¬ IsWellFormed brokenBody.toList := by
    rintro ⟨bytes, hbytes⟩
    have hwhole : unescape brokenBody.toList = .error (.badEscape 'u') := by cbv
    cases hwhole.symm.trans (unescape_eq_ok_iff.2 hbytes)
  obtain ⟨err, herr, hfault, -⟩ := (unquote_leftmost_fault brokenBody).2.1 _ _ hlongest hbody
  obtain rfl := (hfault _).1 (faultOf_of_element hread)
  exact ⟨hlongest, hbody, herr⟩

end Understudy.Go
