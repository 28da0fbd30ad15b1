/-!
# Lookups, results and bytes

Facts about core types that several theories use.
-/

set_option autoImplicit false

namespace Understudy

theorem mem_of_lookup {κ α : Type} [BEq κ] [LawfulBEq κ] {pairs : List (κ × α)} {k : κ} {a : α}
    (h : pairs.lookup k = some a) : (k, a) ∈ pairs := by
  obtain ⟨before, after, rfl, -⟩ := List.lookup_eq_some_iff.1 h
  simp

theorem eq_ok_of_toOption {ε α : Type} {x : Except ε α} {a : α} (h : x.toOption = some a) :
    x = .ok a := by
  cases x with
  | error e => cases h
  | ok b => cases h; rfl

/-- The bytes of a text are those of its characters. -/
theorem fromUTF8?_eq_some_iff {bytes : List UInt8} {s : String} :
    String.fromUTF8? bytes.toByteArray = some s ↔
      bytes = s.toList.flatMap String.utf8EncodeChar := by
  have hchars : s.toByteArray = (s.toList.flatMap String.utf8EncodeChar).toByteArray := by
    conv => lhs; rw [← String.ofList_toList (s := s), String.toByteArray_ofList]
    rfl
  rw [String.fromUTF8?]
  constructor
  · intro h
    split at h
    · cases h
      exact List.toByteArray_inj.1 hchars
    · cases h
  · rintro rfl
    rw [← hchars]
    exact dif_pos s.isValidUTF8

end Understudy
