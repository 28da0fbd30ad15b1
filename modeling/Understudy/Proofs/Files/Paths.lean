import Understudy.Files.Path
import Understudy.Proofs.Text.Splitting

/-!
# Names in a path

A slash parts the names of a path that stand in front of it from those behind it, whatever else is
written between the names.

* `names_append`: names on both sides of a slash.
* `pieces_ofPieces`: pieces are read back from the path that they make.
* `join_ofNames`: a name put below an absolute path.
-/

set_option autoImplicit false

namespace Understudy.Files.Path

open Text

/-- A name that can stand between two slashes. -/
structure IsComponent (name : OsText) : Prop where
  noSlash : slash ∉ name
  isName : isName name = true

/-! ## Slashes -/

section
variable {front back path piece name : OsText}

theorem pieces_ne_nil (path : OsText) : pieces path ≠ [] := splitBy_ne_nil _ path

theorem pieces_append (front back : OsText) :
    pieces (front ++ slash :: back) = pieces front ++ pieces back :=
  splitBy_append (by simp) front back

theorem pieces_single (h : slash ∉ piece) : pieces piece = [piece] := by
  apply splitBy_uncut
  intro b hb
  simpa using ne_of_mem_of_not_mem hb h

theorem slash_not_mem_piece (h : piece ∈ pieces path) : slash ∉ piece := by
  intro hmem
  have huncut := splitBy_forall (· == slash) path piece h slash hmem
  simp at huncut

theorem isComponent_of_mem_names (h : name ∈ names path) : IsComponent name :=
  have ⟨hmem, hname⟩ := List.mem_filter.1 h
  ⟨slash_not_mem_piece hmem, hname⟩

theorem names_append (front back : OsText) :
    names (front ++ slash :: back) = names front ++ names back := by
  rw [names, pieces_append, List.filter_append]
  rfl

theorem names_slash (path : OsText) : names (path ++ [slash]) = names path :=
  (names_append path []).trans (List.append_nil _)

theorem IsComponent.ne_nil (h : IsComponent name) : name ≠ [] := by
  rintro rfl
  cases h.isName

theorem names_component (h : IsComponent name) : names name = [name] := by
  rw [names, pieces_single h.noSlash]
  simp [h.isName]

theorem isAbsolute_append_of_ne (h : front ≠ []) (back : OsText) :
    isAbsolute (front ++ back) = isAbsolute front := by
  cases front with
  | nil => exact absurd rfl h
  | cons => rfl

theorem isAbsolute_append (front back : OsText) :
    isAbsolute (front ++ slash :: back) = isAbsolute (front ++ [slash]) := by
  cases front <;> rfl

theorem IsComponent.isAbsolute_append (h : IsComponent name) (tail : OsText) :
    isAbsolute (name ++ tail) = false := by
  obtain ⟨b, bs, rfl⟩ := List.exists_cons_of_ne_nil h.ne_nil
  have hb : b ≠ slash := fun heq => h.noSlash (by simp [heq])
  simpa [isAbsolute] using hb

theorem IsComponent.isAbsolute (h : IsComponent name) : isAbsolute name = false := by
  have happend := h.isAbsolute_append []
  rwa [List.append_nil] at happend

end

/-! ## Pieces put together -/

section
variable {names : List OsText} {name : OsText}

theorem ofPieces_cons (h : names ≠ []) (name : OsText) :
    ofPieces (name :: names) = name ++ slash :: ofPieces names := by
  rw [ofPieces, List.intercalate_cons_of_ne_nil h, List.append_assoc]
  rfl

theorem ofPieces_concat (h : names ≠ []) (name : OsText) :
    ofPieces (names ++ [name]) = ofPieces names ++ slash :: name := by
  induction names with
  | nil => exact absurd rfl h
  | cons first rest ih =>
    by_cases hrest : rest = []
    · subst hrest
      simp [ofPieces]
    · rw [List.cons_append, ofPieces_cons (by simp), ih hrest, ofPieces_cons hrest,
        List.append_assoc]
      rfl

/-- A byte of a path is a slash, or stands in one of its pieces. -/
theorem mem_ofPieces {b : UInt8} (h : b ∈ ofPieces names) : b = slash ∨ ∃ n ∈ names, b ∈ n := by
  induction names with
  | nil => cases h
  | cons first rest ih =>
    by_cases hrest : rest = []
    · subst hrest
      exact .inr ⟨first, List.mem_cons_self, by simpa [ofPieces] using h⟩
    · rw [ofPieces_cons hrest, List.mem_append, List.mem_cons] at h
      rcases h with h | h | h
      · exact .inr ⟨first, List.mem_cons_self, h⟩
      · exact .inl h
      · rcases ih h with h | ⟨n, hn, h⟩
        · exact .inl h
        · exact .inr ⟨n, List.mem_cons_of_mem first hn, h⟩

theorem ofNames_concat (h : names ≠ []) (name : OsText) :
    ofNames (names ++ [name]) = ofNames names ++ slash :: name := by
  rw [ofNames, ofPieces_concat h]
  rfl

/-- Pieces without slashes are read back from the path that they make. -/
theorem pieces_ofPieces (hne : names ≠ []) (h : ∀ n ∈ names, slash ∉ n) :
    pieces (ofPieces names) = names := by
  induction names with
  | nil => exact absurd rfl hne
  | cons name names ih =>
    rw [List.forall_mem_cons] at h
    by_cases hnames : names = []
    · subst hnames
      rw [ofPieces, List.intercalate_singleton, pieces_single h.1]
    · rw [ofPieces_cons hnames, pieces_append, pieces_single h.1, ih hnames h.2]
      rfl

theorem pieces_ofNames (hne : names ≠ []) (h : ∀ n ∈ names, slash ∉ n) :
    pieces (ofNames names) = [] :: names := by
  have hsplit := pieces_append [] (ofPieces names)
  rw [pieces_ofPieces hne h] at hsplit
  exact hsplit

theorem names_ofNames (h : ∀ n ∈ names, IsComponent n) : Path.names (ofNames names) = names := by
  by_cases hnames : names = []
  · subst hnames
    rfl
  · rw [Path.names, pieces_ofNames hnames fun n hn => (h n hn).noSlash,
      List.filter_cons_of_neg (by simp [isName]), List.filter_eq_self]
    exact fun n hn => (h n hn).isName

@[simp]
theorem ofNames_ne_nil (names : List OsText) : ofNames names ≠ [] := List.cons_ne_nil _ _

@[simp]
theorem isAbsolute_ofNames (names : List OsText) : isAbsolute (ofNames names) = true := rfl

/-- What is made of pieces ends with the last one. -/
theorem exists_ofPieces_concat (names : List OsText) (name : OsText) :
    ∃ front, ofPieces (names ++ [name]) = front ++ name := by
  by_cases hnames : names = []
  · exact ⟨[], by simp [hnames, ofPieces]⟩
  · exact ⟨ofPieces names ++ [slash], by simp [ofPieces_concat hnames]⟩

theorem endsInSlash_append (h : slash ∉ name) (hne : name ≠ []) (front : OsText) :
    endsInSlash (front ++ name) = false := by
  obtain ⟨bytes, b, rfl⟩ := (List.eq_nil_or_concat name).resolve_left hne
  have hb : b ≠ slash := fun heq => h (by simp [heq])
  simpa [endsInSlash] using hb

/-- An absolute path does not end in a slash, but for the root. -/
theorem endsInSlash_ofNames (hne : names ≠ []) (h : ∀ n ∈ names, IsComponent n) :
    endsInSlash (ofNames names) = false := by
  obtain ⟨front, last, rfl⟩ := (List.eq_nil_or_concat names).resolve_left hne
  rw [List.concat_eq_append] at h ⊢
  obtain ⟨text, htext⟩ := exists_ofPieces_concat front last
  have hlast : IsComponent last := h last (by simp)
  rw [ofNames, htext, ← List.cons_append]
  exact endsInSlash_append hlast.noSlash hlast.ne_nil (slash :: text)

/-- The path of a name in a directory. -/
theorem join_ofNames (h : ∀ n ∈ names, IsComponent n) (hname : IsComponent name) :
    join (ofNames names) name = ofNames (names ++ [name]) := by
  rw [join, hname.isAbsolute, if_neg (by simp)]
  by_cases hnames : names = []
  · subst hnames
    rw [if_pos (.inr rfl)]
    simp [ofNames, ofPieces]
  · rw [if_neg (by simp [endsInSlash_ofNames hnames h]), ofNames_concat hnames]

end

end Understudy.Files.Path
