import Mathlib.Data.List.Nodup
import Understudy.Proofs.Extraction
import Understudy.Proofs.Mock.Printer

/-!
# Names of parameters in the generated file

A parameter without a name of its own, or with the name of the receiver, is called `arg` and its
place. The name of a place is that of no other place, but it may be the name of another parameter:
this is the only way in which two parameters of a method come to have the same name.

* `Field.nameAt_of_isReplaced`, `Field.nameAt_of_not_isReplaced`: the two sources of names.
* `placeName_inj`: places have different names.
* `Method.parameterNames_nodup_iff`: when all names of a method are different.
-/

set_option autoImplicit false

namespace Understudy

open Text (braced openBrace)

/-- The parameter is called by its place. -/
def Field.IsReplaced (receiver : String) (f : Field) : Prop :=
  f.name = "" ∨ f.name = "_" ∨ f.name = receiver

/-- What a parameter at a place is called if it is called by its place. -/
def placeName (i : Nat) : String := "arg" ++ toString i

/-- The names of the parameters of a method, as they are written. -/
def Method.parameterNames (receiver : String) (m : Method) : List String :=
  m.input.mapIdx (Field.nameAt receiver)

/-- The own name of some parameter is the name of a place whose parameter is called by it. -/
def Method.HasPlaceClash (receiver : String) (m : Method) : Prop :=
  ∃ i : Fin m.input.length, (m.input.get i).IsReplaced receiver ∧
    ∃ g ∈ m.input, g.name = placeName i

instance (receiver : String) (f : Field) : Decidable (f.IsReplaced receiver) :=
  inferInstanceAs (Decidable (_ ∨ _))

instance (receiver : String) (m : Method) : Decidable (m.HasPlaceClash receiver) :=
  inferInstanceAs (Decidable (∃ _ : Fin m.input.length, _))

section
variable {receiver : String} {f g : Field} {i j : Nat} {m : Method}

theorem Field.nameAt_of_isReplaced (h : f.IsReplaced receiver) :
    f.nameAt receiver i = placeName i := if_pos h

theorem Field.nameAt_of_not_isReplaced (h : ¬ f.IsReplaced receiver) :
    f.nameAt receiver i = f.name := if_neg h

/-- **Places have different names.** -/
theorem placeName_inj (h : placeName i = placeName j) : i = j := by
  have hdigits : Nat.toDigits 10 i = Nat.toDigits 10 j := by
    rw [placeName, placeName, String.append_right_inj] at h
    simpa [Nat.toString_eq_repr, ← String.toList_inj] using h
  rw [← Nat.ofDigitChars_ten_toDigits (n := i), hdigits, Nat.ofDigitChars_ten_toDigits]

theorem head?_placeName (i : Nat) : (placeName i).toList.head? = some 'a' := by
  simp [placeName]

theorem placeName_ne {s : String} (h : s.toList.head? ≠ some 'a') : placeName i ≠ s := by
  rintro rfl
  exact h (head?_placeName i)

/-- A name that is written is not empty, no low line and not the name of the receiver. -/
theorem Field.nameAt_ne (h : receiver.toList.head? ≠ some 'a') :
    f.nameAt receiver i ≠ receiver ∧ f.nameAt receiver i ≠ "" ∧ f.nameAt receiver i ≠ "_" := by
  by_cases hf : f.IsReplaced receiver
  · rw [nameAt_of_isReplaced hf]
    exact ⟨placeName_ne h, placeName_ne (by decide), placeName_ne (by decide)⟩
  · rw [nameAt_of_not_isReplaced hf]
    simp only [IsReplaced, not_or] at hf
    exact ⟨hf.2.2, hf.1, hf.2.1⟩

/-- A parameter that is called like a place is so by its own name. -/
theorem Field.not_isReplaced_of_name (h : receiver.toList.head? ≠ some 'a')
    (hg : g.name = placeName i) : ¬ g.IsReplaced receiver := by
  rintro (hname | hname | hname) <;> rw [hg] at hname
  · exact placeName_ne (by decide) hname
  · exact placeName_ne (by decide) hname
  · exact placeName_ne h hname

theorem Method.parameterNames_getElem? (hi : i < m.input.length) :
    (m.parameterNames receiver)[i]? = some (m.input[i].nameAt receiver i) := by
  simp [parameterNames, hi]

/-- Two parameters are written alike if they have the same own name, or if one of them has the name
of the other's place. -/
theorem Field.nameAt_eq_nameAt (hij : i ≠ j) (h : f.nameAt receiver i = g.nameAt receiver j) :
    f.name = g.name ∧ ¬ f.IsReplaced receiver ∨
      f.IsReplaced receiver ∧ g.name = placeName i ∨
      g.IsReplaced receiver ∧ f.name = placeName j := by
  by_cases hf : f.IsReplaced receiver
  · rw [nameAt_of_isReplaced hf] at h
    by_cases hg : g.IsReplaced receiver
    · rw [nameAt_of_isReplaced hg] at h
      exact absurd (placeName_inj h) hij
    · rw [nameAt_of_not_isReplaced hg] at h
      exact .inr (.inl ⟨hf, h.symm⟩)
  · rw [nameAt_of_not_isReplaced hf] at h
    by_cases hg : g.IsReplaced receiver
    · rw [nameAt_of_isReplaced hg] at h
      exact .inr (.inr ⟨hg, h⟩)
    · rw [nameAt_of_not_isReplaced hg] at h
      exact .inl ⟨h, hf⟩

/-- **The names of a method are different** exactly if no parameter has the name of a place that is
in use, where the names in the source are different as far as there are any. -/
theorem Method.parameterNames_nodup_iff (hreceiver : receiver.toList.head? ≠ some 'a')
    (hdistinct : m.input.Pairwise fun f g => f.name = g.name → f.name = "" ∨ f.name = "_") :
    (m.parameterNames receiver).Nodup ↔ ¬ m.HasPlaceClash receiver := by
  rw [List.nodup_iff_getElem?_ne_getElem?]
  constructor
  · rintro hnodup ⟨⟨i, hi⟩, hreplaced, g, hg, hname⟩
    rw [List.get_eq_getElem] at hreplaced
    obtain ⟨j, hj, rfl⟩ := List.getElem_of_mem hg
    have hkept : ¬ m.input[j].IsReplaced receiver := Field.not_isReplaced_of_name hreceiver hname
    have hsame : (m.parameterNames receiver)[i]? = (m.parameterNames receiver)[j]? := by
      rw [parameterNames_getElem? hi, parameterNames_getElem? hj,
        Field.nameAt_of_isReplaced hreplaced, Field.nameAt_of_not_isReplaced hkept, hname]
    have hlen : (m.parameterNames receiver).length = m.input.length := List.length_mapIdx
    have hne : i ≠ j := by
      rintro rfl
      exact hkept hreplaced
    rcases Nat.lt_or_gt_of_ne hne with hlt | hlt
    · exact hnodup i j hlt (hlen ▸ hj) hsame
    · exact hnodup j i hlt (hlen ▸ hi) hsame.symm
  · intro hclash i j hij hj hsame
    rw [parameterNames, List.length_mapIdx] at hj
    have hi : i < m.input.length := by omega
    rw [parameterNames_getElem? hi, parameterNames_getElem? hj, Option.some.injEq] at hsame
    obtain ⟨hname, hkept⟩ | ⟨hreplaced, hname⟩ | ⟨hreplaced, hname⟩ :=
      Field.nameAt_eq_nameAt (Nat.ne_of_lt hij) hsame
    · -- Equal names in the source are blank, and a blank name is replaced.
      have hblank := List.pairwise_iff_getElem.1 hdistinct i j hi hj hij hname
      exact hkept (hblank.imp_right .inl)
    · exact hclash ⟨⟨i, hi⟩, hreplaced, _, List.getElem_mem hj, hname⟩
    · exact hclash ⟨⟨j, hj⟩, hreplaced, _, List.getElem_mem hi, hname⟩

theorem parameterText_eq (receiver : String) (m : Method) :
    parameterText receiver m.input = ", ".intercalate
      (List.zipWith (fun name f => name ++ " " ++ f.type) (m.parameterNames receiver) m.input) := by
  rw [parameterText, Method.parameterNames]
  congr 1
  apply List.ext_getElem
  · simp
  · simp

end

/-- The first line of a method in the generated file, with the given names of the parameters. -/
def Method.declaration (names : List String) (m : Method) : String :=
  "func (mocker *Mocker) " ++ m.name ++ "(" ++
    ", ".intercalate (List.zipWith (fun name f => name ++ " " ++ f.type) names m.input) ++ ")" ++
    resultText m.output ++ " " ++ openBrace

theorem Method.declaration_eq (m : Method) : m.declaration (m.parameterNames "mocker") =
    "func (" ++ "mocker" ++ " *" ++ "Mocker" ++ ") " ++ m.name ++ m.signatureText "mocker" ++
      " " ++ openBrace := by
  have hfront : "func (" ++ "mocker" ++ " *" ++ "Mocker" ++ ") " = "func (mocker *Mocker) " := by
    decide
  rw [hfront, signatureText, parameterText_eq]
  unfold declaration
  simp only [String.append_assoc]

/-- **The declaration of a method** stands in the generated file with these names. -/
theorem Mock.declaration_mem_lines {mock : Mock} (hstruct : mock.structName = "Mocker") {m : Method}
    (hm : m ∈ mock.methods) : m.declaration (m.parameterNames "mocker") ∈ mock.lines := by
  have hreceiver : mock.receiver = "mocker" := by
    rw [Mock.receiver, hstruct]
    rfl
  rw [Mock.lines, hstruct, hreceiver, m.declaration_eq]
  refine List.mem_append_right _ (List.mem_flatMap.2 ⟨m, hm, ?_⟩)
  rw [Method.lines]
  exact List.mem_cons_of_mem _ (List.mem_cons_of_mem _ List.mem_cons_self)

/-- **When parameters have different names.** The built-in template declares every method of a mock
with names that are not empty, no low lines and not the name of the receiver. If the names in the
interface are different as far as there are any, the names in the declaration are different exactly
if no parameter has the name `arg` and a place of its own whose parameter is called by that place. -/
theorem parameterNames_differ_iff {mock : Mock} (hstruct : mock.structName = "Mocker") {m : Method}
    (hm : m ∈ mock.methods)
    (hdistinct : m.input.Pairwise fun f g => f.name = g.name → f.name = "" ∨ f.name = "_") :
    mock.renderWith Template.builtin = .ok (unlines mock.lines) ∧
    m.declaration (m.parameterNames "mocker") ∈ mock.lines ∧
    (∀ name ∈ m.parameterNames "mocker", name ≠ "mocker" ∧ name ≠ "" ∧ name ≠ "_") ∧
    ((m.parameterNames "mocker").Nodup ↔ ¬ m.HasPlaceClash "mocker") := by
  refine ⟨Mock.renderWith_of_parse Template.parse_builtin (Template.renderStmts_builtin mock),
    mock.declaration_mem_lines hstruct hm, fun name hname => ?_,
    m.parameterNames_nodup_iff (by decide) hdistinct⟩
  obtain ⟨i, hi, rfl⟩ := List.mem_mapIdx.1 hname
  exact Field.nameAt_ne (by decide)

/-- A mock of a method with names that are replaced and the name of a place that is not in use. -/
def mixedMock : Mock where
  genPackage := "mocks"
  modelPath := "example.com/p"
  package := "p"
  structName := "Mocker"
  imports := []
  methods := [
    ⟨"Put", [⟨"_", "int"⟩, ⟨"mocker", "string"⟩, ⟨"arg3", "bool"⟩, ⟨"key", "string"⟩], []⟩]

/-- The parameters of the method are declared with different names. -/
theorem mixedMock_differ : ∃ m ∈ mixedMock.methods,
    m.parameterNames "mocker" = ["arg0", "arg1", "arg3", "key"] ∧
    (m.parameterNames "mocker").Nodup ∧
    "func (mocker *Mocker) Put(arg0 int, arg1 string, arg3 bool, key string) " ++ openBrace ∈
      mixedMock.lines := by
  have hstruct : mixedMock.structName = "Mocker" := rfl
  obtain ⟨_, hline, _, hdiffer⟩ :=
    parameterNames_differ_iff hstruct List.mem_cons_self (by decide)
  exact ⟨_, List.mem_cons_self, by decide, hdiffer.2 (by decide), hline⟩

/-- A source with an unnamed parameter and another one with the name of its place. -/
def placeClashSource : String :=
  "package p\n\ntype Querier interface " ++ braced "\n\tGet(_ int, arg0 string)\n" ++ "\n"

/-- The complete description of the mock for that source. -/
def placeClashMock : Mock where
  genPackage := "mocks"
  modelPath := "example.com/p"
  package := "p"
  structName := "Mocker"
  imports := []
  methods := [⟨"Get", [⟨"_", "int"⟩, ⟨"arg0", "string"⟩], []⟩]

/-- **The name of a place may be taken**: both parameters are declared with the same name, though
their names in the interface are different. -/
theorem placeClash_declared :
    (∃ file, Go.parse placeClashSource = some file ∧
      (extract file).outcome = .ok { placeClashMock with genPackage := "", modelPath := "" }) ∧
    placeClashMock.renderWith Template.builtin = .ok (unlines placeClashMock.lines) ∧
    "func (mocker *Mocker) Get(arg0 int, arg0 string) " ++ openBrace ∈ placeClashMock.lines ∧
    ∃ m ∈ placeClashMock.methods,
      (m.input.Pairwise fun f g => f.name = g.name → f.name = "" ∨ f.name = "_") ∧
      ¬ (m.parameterNames "mocker").Nodup := by
  have hread : (Go.parse placeClashSource).bind (fun file => (extract file).outcome.toOption) =
      some { placeClashMock with genPackage := "", modelPath := "" } := by decide +kernel
  obtain ⟨file, hparse, hextract⟩ := Option.bind_eq_some_iff.1 hread
  have hline := placeClashMock.declaration_mem_lines rfl List.mem_cons_self
  exact ⟨⟨file, hparse, eq_ok_of_toOption hextract⟩,
    Mock.renderWith_of_parse Template.parse_builtin (Template.renderStmts_builtin _), hline, _,
    List.mem_cons_self, by decide, by decide⟩

end Understudy
