import Understudy.Proofs.Extraction
import Understudy.Proofs.Go.Shapes
import Understudy.Proofs.Mock.Printer
import Understudy.Proofs.Text.Splitting

/-!
# Sentinels in the generated file

A type that a mock cannot name is written as a sentinel, which begins with an angle bracket. Nothing
else in the generated file has one: names are identifiers and the text around them has none. So
the file shows a sentinel exactly if some method of the interface has such a type.

* `Mock.lt_not_mem_text`: where an angle bracket in the file can come from.
* `Mock.infix_text`: the type of every field is part of the file.
* `extract_namesPlain`: the names that are extracted hold no angle bracket.
* `sentinel_shown_iff`: when the file shows a sentinel.
-/

set_option autoImplicit false

namespace Understudy

open Go
open Text (braced mem_intercalate)

/-! ## Pieces of a text -/

section
variable {c : Char} {s separator : String} {pieces : List String}

theorem infix_intercalate (separator : String) (hs : s ∈ pieces) :
    s.toList <:+: (separator.intercalate pieces).toList := by
  induction pieces with
  | nil => cases hs
  | cons first rest ih =>
    cases rest with
    | nil => simp_all
    | cons second rest =>
      simp only [String.intercalate_cons_cons, String.toList_append]
      rcases List.mem_cons.1 hs with rfl | hs
      · exact ((List.prefix_append _ _).trans (List.prefix_append _ _)).isInfix
      · exact (ih hs).trans (List.suffix_append _ _).isInfix

theorem mem_unlines (h : c ∈ (unlines pieces).toList) : c = '\n' ∨ ∃ s ∈ pieces, c ∈ s.toList := by
  induction pieces with
  | nil => simp at h
  | cons first rest ih =>
    simp only [unlines_cons, String.toList_append, List.mem_append] at h
    rcases h with (h | h) | h
    · exact .inr ⟨first, List.mem_cons_self, h⟩
    · exact .inl (by simpa using h)
    · rcases ih h with h | ⟨s, hs, h⟩
      · exact .inl h
      · exact .inr ⟨s, List.mem_cons_of_mem _ hs, h⟩

theorem infix_unlines (hs : s ∈ pieces) : s.toList <:+: (unlines pieces).toList := by
  rw [unlines, String.toList_join, List.flatMap_map]
  refine List.IsInfix.trans ?_ (List.infix_of_mem_flatten (List.mem_map_of_mem hs))
  rw [String.toList_append]
  exact (List.prefix_append _ _).isInfix

end

/-! ## Methods -/

/-- The names and types of a method hold no angle bracket. -/
structure Method.IsPlain (m : Method) : Prop where
  name : '<' ∉ m.name.toList
  names : ∀ f ∈ m.input ++ m.output, '<' ∉ f.name.toList
  types : ∀ f ∈ m.input ++ m.output, '<' ∉ f.type.toList

section
variable {receiver structName : String} {fields : List Field} {m : Method}

theorem lt_not_mem_nameAt {f : Field} (h : '<' ∉ f.name.toList) (i : Nat) :
    '<' ∉ (f.nameAt receiver i).toList := by
  rw [Field.nameAt]
  split
  · have hdigits : '<' ∉ (toString i).toList := by
      rw [Nat.toString_eq_repr, Nat.toList_repr]
      intro hmem
      exact absurd (Nat.isDigit_of_mem_toDigits (by decide) (by decide) hmem) (by decide)
    simp only [String.toList_append, List.mem_append, not_or]
    exact ⟨by decide, hdigits⟩
  · exact h

theorem lt_not_mem_parameterText (hnames : ∀ f ∈ fields, '<' ∉ f.name.toList)
    (htypes : ∀ f ∈ fields, '<' ∉ f.type.toList) :
    '<' ∉ (parameterText receiver fields).toList := by
  intro h
  rcases mem_intercalate h with h | ⟨s, hs, h⟩
  · revert h
    decide
  · obtain ⟨i, hi, rfl⟩ := List.mem_mapIdx.1 hs
    have hf := List.getElem_mem hi
    simp only [String.toList_append, List.mem_append] at h
    rcases h with (h | h) | h
    · exact lt_not_mem_nameAt (hnames _ hf) i h
    · revert h
      decide
    · exact htypes _ hf h

theorem lt_not_mem_argumentText (hnames : ∀ f ∈ fields, '<' ∉ f.name.toList) :
    '<' ∉ (argumentText receiver fields).toList := by
  intro h
  rcases mem_intercalate h with h | ⟨s, hs, h⟩
  · revert h
    decide
  · obtain ⟨i, hi, rfl⟩ := List.mem_mapIdx.1 hs
    exact lt_not_mem_nameAt (hnames _ (List.getElem_mem hi)) i h

theorem lt_not_mem_resultText (htypes : ∀ f ∈ fields, '<' ∉ f.type.toList) :
    '<' ∉ (resultText fields).toList := by
  rw [resultText]
  split
  · decide
  · have hjoined : '<' ∉ (", ".intercalate (fields.map Field.type)).toList := by
      intro h
      rcases mem_intercalate h with h | ⟨s, hs, h⟩
      · revert h
        decide
      · obtain ⟨f, hf, rfl⟩ := List.mem_map.1 hs
        exact htypes f hf h
    simp only [String.toList_append, List.mem_append, not_or]
    exact ⟨⟨by decide, hjoined⟩, by decide⟩

theorem Method.IsPlain.signatureText (h : m.IsPlain) : '<' ∉ (m.signatureText receiver).toList := by
  have hparams : '<' ∉ (parameterText receiver m.input).toList :=
    lt_not_mem_parameterText (fun f hf => h.names f (List.mem_append_left _ hf))
      fun f hf => h.types f (List.mem_append_left _ hf)
  have hresults : '<' ∉ (resultText m.output).toList :=
    lt_not_mem_resultText fun f hf => h.types f (List.mem_append_right _ hf)
  simp [Method.signatureText, hparams, hresults]

theorem Method.IsPlain.fieldLine (h : m.IsPlain) : '<' ∉ (m.fieldLine receiver).toList := by
  simp [Method.fieldLine, h.name, h.signatureText]

theorem Method.IsPlain.lines (h : m.IsPlain) (hr : '<' ∉ receiver.toList)
    (hs : '<' ∉ structName.toList) :
    ∀ line ∈ m.lines structName receiver, '<' ∉ line.toList := by
  have harguments : '<' ∉ (argumentText receiver m.input).toList :=
    lt_not_mem_argumentText fun f hf => h.names f (List.mem_append_left _ hf)
  have hreturn : '<' ∉ (if m.output = [] then "" else "return ").toList := by split <;> decide
  simp [Method.lines, h.name, h.signatureText, hr, hs, harguments, hreturn]

theorem infix_parameterText (receiver : String) {f : Field} (hf : f ∈ fields) :
    f.type.toList <:+: (parameterText receiver fields).toList := by
  obtain ⟨i, hi, rfl⟩ := List.getElem_of_mem hf
  have htype : fields[i].type.toList <:+:
      (fields[i].nameAt receiver i ++ " " ++ fields[i].type).toList := by
    rw [String.toList_append]
    exact (List.suffix_append _ _).isInfix
  exact htype.trans (infix_intercalate ", " (List.mem_mapIdx.2 ⟨i, hi, rfl⟩))

theorem infix_resultText {f : Field} (hf : f ∈ fields) :
    f.type.toList <:+: (resultText fields).toList := by
  rw [resultText, if_neg (List.ne_nil_of_mem hf)]
  refine (infix_intercalate ", " (List.mem_map_of_mem hf)).trans ⟨" (".toList, ")".toList, ?_⟩
  rw [String.toList_append, String.toList_append]

/-- The type of every field stands in the line of the method. -/
theorem infix_fieldLine {f : Field} (hf : f ∈ m.input ++ m.output) :
    f.type.toList <:+: (m.fieldLine receiver).toList := by
  simp only [Method.fieldLine, Method.signatureText, String.toList_append]
  rcases List.mem_append.1 hf with hf | hf
  · refine (infix_parameterText receiver hf).trans ?_
    refine List.IsInfix.trans ?_ (List.suffix_append _ _).isInfix
    refine List.IsInfix.trans ?_ (List.prefix_append _ _).isInfix
    exact List.infix_append _ _ _
  · refine (infix_resultText hf).trans ?_
    exact ((List.suffix_append _ _).trans (List.suffix_append _ _)).isInfix

end

/-! ## The file -/

namespace Mock

/-- The names in the description hold no angle bracket. -/
structure NamesPlain (m : Mock) : Prop where
  package : '<' ∉ m.package.toList
  structName : m.structName = mockName
  imports : ∀ i ∈ m.imports, '<' ∉ i.name.toList
  methods : ∀ x ∈ m.methods, '<' ∉ x.name.toList
  fields : ∀ x ∈ m.methods, ∀ f ∈ x.input ++ x.output, '<' ∉ f.name.toList

variable {m : Mock}

/-- **An angle bracket in the file** comes from the package, a path or the type of a field. -/
theorem lt_not_mem_text (h : m.NamesPlain) (hg : '<' ∉ m.genPackage.toList)
    (hp : '<' ∉ m.modelPath.toList) (hi : ∀ i ∈ m.imports, '<' ∉ i.path.toList)
    (ht : ∀ x ∈ m.methods, ∀ f ∈ x.input ++ x.output, '<' ∉ f.type.toList) :
    '<' ∉ m.text.toList := by
  have hplain : ∀ x ∈ m.methods, x.IsPlain := fun x hx => ⟨h.methods x hx, h.fields x hx, ht x hx⟩
  have hname : '<' ∉ m.structName.toList := by rw [h.structName]; decide
  have hreceiver : '<' ∉ m.receiver.toList := by
    have hmocker : m.receiver = "mocker" := by
      rw [receiver, h.structName]
      rfl
    simp [hmocker]
  have hlines : ∀ line ∈ m.lines, '<' ∉ line.toList := by
    simp only [lines, List.forall_mem_append, List.forall_mem_map, List.forall_mem_flatMap]
    refine ⟨⟨⟨⟨⟨?_, fun i hmem => ?_⟩, ?_⟩, fun x hx => (hplain x hx).fieldLine⟩, by simp⟩, ?_⟩
    · simp [hg]
    · have hlabel : '<' ∉ (if i.name = "" then "" else i.name ++ " ").toList := by
        split
        · decide
        · simp [h.imports i hmem]
      simp [Import.line, hi i hmem, hlabel]
    · simp [h.package, hp, hname]
    · intro x hx
      exact (hplain x hx).lines hreceiver hname
  intro hmem
  rcases mem_unlines hmem with hmem | ⟨line, hline, hmem⟩
  · revert hmem
    decide
  · exact hlines line hline hmem

/-- **The type of every field** is part of the file. -/
theorem infix_text {x : Method} {f : Field} (hx : x ∈ m.methods) (hf : f ∈ x.input ++ x.output) :
    f.type.toList <:+: m.text.toList := by
  have hline : x.fieldLine m.receiver ∈ m.lines := by
    simp only [lines, List.mem_append, List.mem_map]
    exact .inl (.inl (.inr ⟨x, hx, rfl⟩))
  exact (infix_fieldLine hf).trans (infix_unlines hline)

end Mock

/-! ## What is extracted -/

theorem lt_not_mem_of {cs : List Char} (h : ∀ c ∈ cs, isAngle c = false) : '<' ∉ cs :=
  fun hmem => absurd (h _ hmem) (by decide)

section
variable {package : String} {method spec file : Node}

theorem lt_not_mem_names (h : method.Formed) {s : Slot} (hs : s ∈ method.slots) :
    ∀ name ∈ s.names, '<' ∉ name.toList := by
  intro name hname
  obtain ⟨list, hl, hs⟩ := List.mem_flatMap.1 hs
  have hlist := (h.signatureLists hl).1
  have hnames : ∀ d ∈ list.named, name ∈ (d.childrenIn .name).map Node.text →
      '<' ∉ name.toList := by
    intro d hd hname
    obtain ⟨ident, hident, rfl⟩ := List.mem_map.1 hname
    obtain ⟨hident, hrole⟩ := List.mem_filter.1 hident
    have hformed := (hlist.part (Node.mem_parts_of_named hd)).part hident
    exact lt_not_mem_of (hformed.not_isAngle_of_role (.inl (eq_of_beq hrole)))
  rw [Slot.ofList] at hs
  split at hs
  · obtain ⟨d, hd, hs⟩ := List.mem_filterMap.1 hs
    apply hnames d hd
    rw [Slot.ofDeclaration?] at hs
    split at hs
    · split at hs <;> cases hs <;> exact hname
    · cases hs
      exact hname
    · cases hs
  · rw [List.mem_singleton.1 hs] at hname
    cases hname

theorem mem_fieldsOf {slots : List Slot} {f : Field} (hf : f ∈ fieldsOf package slots) :
    f.name = "" ∨ ∃ s ∈ slots, f.name ∈ s.names := by
  obtain ⟨s, hs, hf⟩ := List.mem_flatMap.1 hf
  rw [Slot.fields, Slot.fieldsWith] at hf
  split at hf
  · rw [List.mem_singleton.1 hf]
    exact .inl rfl
  · obtain ⟨name, hname, rfl⟩ := List.mem_map.1 hf
    exact .inr ⟨s, hs, hname⟩

/-- **The names that are extracted** hold no angle bracket: they are identifiers. -/
theorem extract_namesPlain {source : String} {mock : Mock} (hparse : parse source = some file)
    (h : (extract file).outcome = .ok mock) : mock.NamesPlain := by
  have hformed := parse_formed hparse
  obtain ⟨package, spec, is, hp, hs, hi, rfl⟩ := exists_of_extract_eq_ok h
  have hspec : spec.Formed := hformed.preorder (List.mem_of_find?_eq_some hs)
  -- A method comes from a node, and all its names are names in that node.
  have hmethod : ∀ x ∈ methodsOf package spec, '<' ∉ x.name.toList ∧
      ∀ f ∈ x.input ++ x.output, '<' ∉ f.name.toList := by
    intro x hx
    rw [methodsOf_eq] at hx
    obtain ⟨method, hm, hx⟩ := List.mem_filterMap.1 hx
    obtain ⟨ident, hident, rfl⟩ := Option.map_eq_some_iff.1 hx
    have hmethod := (methodNodes_formed hspec hm).1
    refine ⟨lt_not_mem_of ((hmethod.child? hident).not_isAngle_of_role
      (.inl (Node.child?_eq_some hident).2)), fun f hf => ?_⟩
    rw [fieldsOf_slots] at hf
    rcases mem_fieldsOf hf with hname | ⟨s, hs, hname⟩
    · rw [hname]
      decide
    · exact lt_not_mem_names hmethod hs _ hname
  refine ⟨lt_not_mem_of (packageName_not_isAngle hformed hp), rfl, fun i hmem => ?_,
    fun x hx => (hmethod x hx).1, fun x hx => (hmethod x hx).2⟩
  rw [imports, importSpecs_eq hformed (kind_of_parse hparse)] at hi
  obtain ⟨k, hmem⟩ := List.mem_iff_getElem?.1 hmem
  obtain ⟨spec, hspec, himport⟩ := importsOf_getElem? hi hmem
  obtain ⟨_, _, _, hname⟩ := exists_of_importOf himport
  have hspec := hformed.preorder (List.mem_filter.1 (List.mem_of_getElem? hspec)).1
  rw [hname]
  cases hident : spec.child? .name with
  | none => decide
  | some ident =>
    exact lt_not_mem_of ((hspec.child? hident).not_isAngle_of_role
      (.inl (Node.child?_eq_some hident).2))

/-- A mark that the texts of types show exactly for sentinels is in some field exactly if some
method has a variadic parameter or a type that cannot be named. -/
theorem exists_marked_field_iff (h : spec.Formed) {P : List Char → Prop}
    (hmark : ∀ s : TypeShape, s.IsPlain →
      (P (qualifyChars package.toList s.text.toList) ↔ s.unsupported? ≠ none))
    (hcomments : ∀ method ∈ methodNodes spec, ∀ t ∈ method.signatureTypes,
      ¬ t.HasCommentedPointer) :
    (∃ x ∈ methodsOf package spec, ∃ f ∈ x.input ++ x.output, P f.type.toList) ↔
      ∃ method ∈ methodNodes spec, method.IsVariadic ∨
        ∃ t ∈ method.signatureTypes, ¬ t.IsNameable := by
  rw [exists_field_iff (P := fun text => P text.toList) h]
  refine exists_congr fun method => and_congr_right fun hm => ?_
  have hmethod := (methodNodes_formed h hm).1
  refine (exists_slot_iff
    (P := fun shape => P (qualify package shape.text).toList) hmethod).trans ?_
  rw [or_comm]
  refine or_congr ?_ (exists_congr fun t => and_congr_right fun ht => ?_)
  · rw [toList_qualify]
    exact and_iff_left ((hmark (.unsupported .variadicParameterDeclaration) trivial).2 nofun)
  · have htype := (hmethod.signatureTypes ht).1
    rw [toList_qualify, hmark _ htype.isPlain, ne_eq,
      Node.unsupported?_eq_none htype (hcomments method hm t ht)]

end

/-- **Degraded output is always visible and never spurious.** For every source from which a mock is
extracted, with no comment inside the types of the interface and no angle bracket in the paths and
in the package of the generated file, the generated file shows a sentinel if and only if some method
that stands directly in the interface has a variadic parameter, or a parameter or result whose type,
below slices, arrays and pointers, is not a name, with or without a package. -/
theorem sentinel_shown_iff (genPackage modelPath : String) {source : String} {file spec : Node}
    {mock : Mock} (hparse : parse source = some file) (hextract : (extract file).outcome = .ok mock)
    (hspec : findType "Querier" file = some spec)
    (hcomments : ∀ method ∈ methodNodes spec, ∀ t ∈ method.signatureTypes,
      ∀ n ∈ t.preorder, n.kind ≠ .comment)
    (himports : ∀ i ∈ mock.imports, '<' ∉ i.path.toList) (hpackage : '<' ∉ genPackage.toList)
    (hpath : '<' ∉ modelPath.toList) :
    ∃ text, { mock with genPackage, modelPath }.renderWith Template.builtin = .ok text ∧
      ("<error_unhandled_".toList <:+: text.toList ↔
        ∃ method ∈ methodNodes spec, method.IsVariadic ∨
          ∃ t ∈ method.signatureTypes, ¬ t.IsNameable) := by
  have hformed := parse_formed hparse
  have hnames := extract_namesPlain hparse hextract
  obtain ⟨package, spec, is, hp, hs, -, rfl⟩ := exists_of_extract_eq_ok hextract
  cases hs.symm.trans hspec
  have hspecFormed : spec.Formed := hformed.preorder (List.mem_of_find?_eq_some hs)
  have hplain := packageName_not_isAngle hformed hp
  have hpointers : ∀ method ∈ methodNodes spec, ∀ t ∈ method.signatureTypes,
      ¬ t.HasCommentedPointer := by
    intro method hm t ht hc
    have htype := ((methodNodes_formed hspecFormed hm).1.signatureTypes ht).1
    obtain ⟨n, hn, hk⟩ := hc.exists_comment htype
    exact hcomments method hm t ht n hn hk
  have hplainMock : Mock.NamesPlain
      ⟨genPackage, modelPath, package, mockName, is, methodsOf package spec⟩ :=
    ⟨hnames.package, rfl, hnames.imports, hnames.methods, hnames.fields⟩
  refine ⟨_, Mock.renderWith_of_parse Template.parse_builtin (Template.renderStmts_builtin _), ?_⟩
  -- The file is not cut into fields again: without a sentinel it has no angle bracket at all.
  constructor
  · intro hshown
    by_contra hnone
    rw [← exists_marked_field_iff hspecFormed
      (fun s hs => TypeShape.lt_mem_iff hplain hs) hpointers] at hnone
    have hlt : '<' ∈ "<error_unhandled_".toList := by decide
    exact Mock.lt_not_mem_text hplainMock hpackage hpath himports
      (fun x hx f hf hmem => hnone ⟨x, hx, f, hf, hmem⟩) (hshown.subset hlt)
  · intro hsome
    rw [← exists_marked_field_iff hspecFormed
      (fun s hs => TypeShape.sentinelStart_infix_iff hplain hs) hpointers] at hsome
    obtain ⟨x, hx, f, hf, hshown⟩ := hsome
    exact hshown.trans (Mock.infix_text hx hf)

/-- A source with one method that a mock can declare and one that has a variadic parameter. -/
def variadicSource : String :=
  "package p\n\ntype Querier interface " ++
    braced "\n\tGet(id []T) *q.R\n\tPut(rows ...T)\n" ++ "\n"

/-- The mock of the source. -/
def variadicMock : Mock where
  genPackage := ""
  modelPath := ""
  package := "p"
  structName := mockName
  imports := []
  methods := [⟨"Get", [⟨"id", "[]p.T"⟩], [⟨"", "*q.R"⟩]⟩,
    ⟨"Put", [⟨"rows", "<error_unhandled_variadic_parameter_declaration>"⟩], []⟩]

/-- The variadic parameter is seen in the generated file. -/
theorem variadicSource_shown : ∃ file text, parse variadicSource = some file ∧
    (extract file).outcome = .ok variadicMock ∧
    { variadicMock with genPackage := "mocks", modelPath := "example.com/p" }.renderWith
      Template.builtin = .ok text ∧
    "<error_unhandled_".toList <:+: text.toList := by
  have hread : (parse variadicSource).any (fun file =>
      (extract file).outcome.toOption = some variadicMock &&
      (findType "Querier" file).any fun spec =>
        (methodNodes spec).any (fun method => method.signatureLists.any fun list =>
          list.kind = .parameterList &&
            list.named.any fun d => d.kind = .variadicParameterDeclaration) &&
        (methodNodes spec).all fun method => method.signatureTypes.all fun t =>
          t.preorder.all fun n => n.kind ≠ .comment) = true := by decide +kernel
  obtain ⟨file, hparse, hread⟩ := (Option.any_eq_true _ _).1 hread
  obtain ⟨hextract, hspec⟩ := Bool.and_eq_true_iff.1 hread
  have hextract := eq_ok_of_toOption (of_decide_eq_true hextract)
  obtain ⟨spec, hfind, hspec⟩ := (Option.any_eq_true _ _).1 hspec
  simp only [Bool.and_eq_true, List.any_eq_true, List.all_eq_true, decide_eq_true_eq] at hspec
  obtain ⟨⟨method, hm, list, hl, hlist, hvariadic⟩, hcomments⟩ := hspec
  obtain ⟨text, hrender, hshown⟩ := sentinel_shown_iff "mocks" "example.com/p"
    hparse hextract hfind hcomments nofun (by decide) (by decide)
  exact ⟨file, text, hparse, hextract, hrender,
    hshown.2 ⟨method, hm, .inl ⟨list, hl, hlist, hvariadic⟩⟩⟩

end Understudy
