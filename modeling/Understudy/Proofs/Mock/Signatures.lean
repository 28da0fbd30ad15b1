import Mathlib.Data.Set.List
import Understudy.Proofs.Go.MockFile
import Understudy.Proofs.Mock.Printer

/-!
# A generated mock has the signatures of its interface

The text that the built-in template prints for a mock is a source file again. Where the names, types
and paths in the mock can stand in a source file, the text is parsed, and what is found in it are the
package, the imports and the methods of the mock: the same types in the same order, with the names of
parameters that could not be used replaced.

* `Mock.Regular`: the names, types and paths can stand in a source file.
* `Method.written`: a method as it stands in the generated file.
* `Mock.Regular.exists_file`, `Writes.spell_lines`: the text of a regular mock is that of a
  `Go.MockFile`.
-/

set_option autoImplicit false

namespace Understudy

open Text (openBrace closeBrace)
open Go (isOrdinary Name TypeExpr SettledType ForwardingMethod ImportName ImportPath ImportLine
  MockFile Line spell)

/-! ## Regular mocks -/

/-- The text of a type: slices and pointers over a name that is not exported, or over a name with its
package. -/
inductive IsTypeText : String → Prop
  | name {x : String} (hx : isOrdinary x = true) (hlower : x.toList.head?.any Char.isLower = true) :
    IsTypeText x
  | qualified {q x : String} (hq : isOrdinary q = true) (hx : isOrdinary x = true) :
    IsTypeText (q ++ "." ++ x)
  | slice {t : String} (ht : IsTypeText t) : IsTypeText ("[]" ++ t)
  | pointer {t : String} (ht : IsTypeText t) : IsTypeText ("*" ++ t)

/-- A method whose names and types can stand in a source file. -/
structure Method.Regular (m : Method) : Prop where
  name : isOrdinary m.name = true
  inputNames : ∀ f ∈ m.input, f.name = "" ∨ f.name = "_" ∨ isOrdinary f.name = true
  inputTypes : ∀ f ∈ m.input, IsTypeText f.type
  outputTypes : ∀ f ∈ m.output, IsTypeText f.type

/-- An import that can stand in a source file. -/
structure Import.Regular (i : Import) : Prop where
  name : i.name = "" ∨ i.name = "_" ∨ i.name = "." ∨ isOrdinary i.name = true
  path : i.path.toList.all Go.Token.isPlain = true

/-- A mock whose names, types and paths can stand in a source file. -/
structure Mock.Regular (m : Mock) : Prop where
  structName : m.structName = "Mocker"
  genPackage : isOrdinary m.genPackage = true
  package : isOrdinary m.package = true
  modelPath : m.modelPath.toList.all Go.Token.isPlain = true
  imports : ∀ i ∈ m.imports, i.Regular
  methods : ∀ x ∈ m.methods, x.Regular

/-! ## Methods as they are written -/

/-- The parameter at place `i` as it is written. -/
def Field.written (receiver : String) (i : Nat) (f : Field) : Field := ⟨f.nameAt receiver i, f.type⟩

/-- The method as it is written: its results lose their names. -/
def Method.written (receiver : String) (m : Method) : Method where
  name := m.name
  input := m.input.mapIdx (Field.written receiver)
  output := m.output.map fun f => ⟨"", f.type⟩

theorem map_mapIdx {α β γ : Type} (g : β → γ) (f : Nat → α → β) (xs : List α) :
    (xs.mapIdx f).map g = xs.mapIdx fun i x => g (f i x) :=
  List.ext_getElem (by simp) (by simp)

theorem parameterText_written (receiver : String) (m : Method) : parameterText receiver m.input =
    ", ".intercalate ((m.written receiver).input.map fun f => f.name ++ " " ++ f.type) := by
  rw [Method.written, map_mapIdx, parameterText]
  rfl

theorem argumentText_written (receiver : String) (m : Method) : argumentText receiver m.input =
    ", ".intercalate ((m.written receiver).input.map Field.name) := by
  rw [Method.written, map_mapIdx, argumentText]
  rfl

theorem resultText_written (receiver : String) (m : Method) :
    resultText m.output = resultText (m.written receiver).output := by
  simp [resultText, Method.written, Function.comp_def]

/-! ## The file of a regular mock -/

theorem IsTypeText.exists_type {s : String} (h : IsTypeText s) :
    ∃ t : SettledType, t.type.text = s := by
  induction h with
  | @name x hx hlower =>
    have hupper : ∀ c : Char, c.isLower = true → c.isUpper = false := by
      intro c hc
      rw [Bool.eq_false_iff, ne_eq, Go.isUpper_iff]
      have := Go.isLower_iff.1 hc
      omega
    have hexported : (⟨x, hx⟩ : Name).isExported = false := by
      cases hc : x.toList.head? with
      | none => simp [Name.isExported, hc]
      | some c => simpa [Name.isExported, hc] using hupper c (by simpa [hc] using hlower)
    exact ⟨⟨.name ⟨x, hx⟩, by simp [TypeExpr.isSettled, hexported]⟩, rfl⟩
  | @qualified q x hq hx => exact ⟨⟨.qualified ⟨q, hq⟩ ⟨x, hx⟩, rfl⟩, rfl⟩
  | slice _ ih =>
    obtain ⟨t, rfl⟩ := ih
    exact ⟨⟨.slice t.type, t.settled⟩, rfl⟩
  | pointer _ ih =>
    obtain ⟨t, rfl⟩ := ih
    exact ⟨⟨.pointer t.type, t.settled⟩, rfl⟩

/-- The name of a place can be used. -/
theorem isOrdinary_place (i : Nat) : isOrdinary ("arg" ++ toString i) = true := by
  have hreserved : ∀ w ∈ Go.reservedWords, w.toList.take 3 ≠ ['a', 'r', 'g'] := by decide
  have hchars : ("arg" ++ toString i).toList = 'a' :: 'r' :: 'g' :: Nat.toDigits 10 i := by
    simp [← Nat.toList_repr, toString]
  refine Go.isOrdinary_of_chars hchars rfl ?_ fun hm => hreserved _ hm (by simp)
  have hdigits : (Nat.toDigits 10 i).all Char.isAlphanum = true := by
    rw [List.all_eq_true]
    intro c hc
    simp [Char.isAlphanum, Nat.isDigit_of_mem_toDigits (by decide) (by decide) hc]
  simpa using hdigits

theorem isOrdinary_nameAt {f : Field} (hf : f.name = "" ∨ f.name = "_" ∨ isOrdinary f.name = true)
    (receiver : String) (i : Nat) : isOrdinary (f.nameAt receiver i) = true := by
  rw [Field.nameAt]
  split
  · exact isOrdinary_place i
  · rename_i hne
    rcases hf with hf | hf | hf
    · exact absurd (.inl hf) hne
    · exact absurd (.inr (.inl hf)) hne
    · exact hf

theorem exists_map {α β : Type} {f : α → β} {ys : List β} (h : ∀ y ∈ ys, ∃ x, f x = y) :
    ∃ xs : List α, xs.map f = ys :=
  (Set.ext_iff.1 (Set.range_list_map f) ys).2 h

theorem Method.Regular.exists_method {m : Method} (h : m.Regular) (receiver : String) :
    ∃ x : ForwardingMethod, x.value = m.written receiver := by
  have hinput : ∀ g ∈ (m.written receiver).input,
      ∃ p : Name × SettledType, (⟨p.1.text, p.2.type.text⟩ : Field) = g := by
    intro g hg
    obtain ⟨i, hi, rfl⟩ := List.mem_mapIdx.1 hg
    obtain ⟨t, ht⟩ := (h.inputTypes _ (List.getElem_mem hi)).exists_type
    exact ⟨⟨⟨_, isOrdinary_nameAt (h.inputNames _ (List.getElem_mem hi)) receiver i⟩, t⟩,
      by rw [ht]; rfl⟩
  have houtput : ∀ g ∈ (m.written receiver).output,
      ∃ t : SettledType, (⟨"", t.type.text⟩ : Field) = g := by
    intro g hg
    obtain ⟨f, hf, rfl⟩ := List.mem_map.1 hg
    obtain ⟨t, ht⟩ := (h.outputTypes f hf).exists_type
    exact ⟨t, by rw [ht]⟩
  obtain ⟨ps, hps⟩ := exists_map hinput
  obtain ⟨ts, hts⟩ := exists_map houtput
  exact ⟨⟨⟨m.name, h.name⟩, ps, ts⟩, by rw [ForwardingMethod.value, hps, hts]; rfl⟩

theorem Import.Regular.exists_line {i : Import} (h : i.Regular) :
    ∃ l : ImportLine, l.value = i := by
  obtain ⟨path, name⟩ := i
  have hname : ∃ n : ImportName, n.text = name := by
    rcases h.name with hn | hn | hn | hn
    · exact ⟨.none, hn.symm⟩
    · exact ⟨.blank, hn.symm⟩
    · exact ⟨.dot, hn.symm⟩
    · exact ⟨.name ⟨name, hn⟩, rfl⟩
  obtain ⟨n, rfl⟩ := hname
  exact ⟨⟨n, path, h.path⟩, rfl⟩

/-- The file has what is written for the mock. -/
structure Writes (f : MockFile) (m : Mock) : Prop where
  structName : m.structName = "Mocker"
  genPackage : f.genPackage.text = m.genPackage
  package : f.package.text = m.package
  modelPath : f.modelPath.text = m.modelPath
  imports : f.imports.map ImportLine.value = m.imports
  methods : f.methods.map ForwardingMethod.value = m.methods.map (Method.written m.receiver)

/-- **A regular mock is written as a file.** -/
theorem Mock.Regular.exists_file {m : Mock} (h : m.Regular) : ∃ f, Writes f m := by
  obtain ⟨is, his⟩ := exists_map fun i hi => (h.imports i hi).exists_line
  have hmethods : ∀ v ∈ m.methods.map (Method.written m.receiver),
      ∃ x : ForwardingMethod, x.value = v := by
    rw [List.forall_mem_map]
    exact fun x hx => (h.methods x hx).exists_method m.receiver
  obtain ⟨xs, hxs⟩ := exists_map hmethods
  exact ⟨⟨⟨_, h.genPackage⟩, ⟨_, h.package⟩, is, ⟨_, h.modelPath⟩, xs⟩, h.structName, rfl, rfl, rfl,
    his, hxs⟩

/-! ## The text of the file -/

section
variable {x : ForwardingMethod} {m : Method} (h : x.value = m.written "mocker")
include h

theorem name_of_value : x.name.text = m.name := congrArg Method.name h

theorem results_of_value : x.results = [] ↔ m.output = [] := by
  have houtput : x.results.map (fun t => (⟨"", t.type.text⟩ : Field)) =
      m.output.map fun f => ⟨"", f.type⟩ := congrArg Method.output h
  rw [← List.map_eq_nil_iff, houtput, List.map_eq_nil_iff]

theorem prototype_text : x.prototype.text = m.signatureText "mocker" := by
  have hparams : x.prototype.parameters.text = parameterText "mocker" m.input := by
    rw [parameterText_written, ← h]
    simp [ForwardingMethod.prototype, ForwardingMethod.value, Go.FieldList.text, Go.Group.text,
      Go.Group.names, Function.comp_def]
  have hresult : x.prototype.result.text = resultText m.output := by
    rw [resultText_written "mocker", ← h]
    by_cases hr : x.results = []
    · simp [ForwardingMethod.prototype, ForwardingMethod.value, resultText, Go.Result.text, hr]
    · simp [ForwardingMethod.prototype, ForwardingMethod.value, resultText, Go.Result.text,
        Go.FieldList.text, Function.comp_def, hr]
  rw [Go.Prototype.text, hparams, hresult, Method.signatureText]

theorem spell_fieldLine :
    spell (x.fieldLine.lead ++ x.fieldLine.body) = (m.fieldLine "mocker").toList := by
  simp [ForwardingMethod.fieldLine, Method.fieldLine, Name.func, x.prototype.spell_tokens,
    prototype_text h, name_of_value h]

theorem spell_method :
    spell x.line.fileTokens = (unlines (m.lines "Mocker" "mocker")).toList := by
  have hargs : ", ".intercalate ((x.parameters.map Prod.fst).map Name.text) =
      argumentText "mocker" m.input := by
    rw [argumentText_written, ← h]
    simp [ForwardingMethod.value, Function.comp_def]
  have hbody : spell x.body = _ := Go.spell_bodyTokens (x.results ≠ []) x.name.func.text x.message
    (x.parameters.map Prod.fst)
  rw [hargs] at hbody
  have hreceiver : spell ForwardingMethod.receiver.tokens = "mocker *Mocker".toList := rfl
  simp [Line.fileTokens, ForwardingMethod.line, ForwardingMethod.comment,
    ForwardingMethod.message, hbody, hreceiver, Method.lines, Name.func, Go.quoted,
    x.prototype.spell_tokens, prototype_text h, name_of_value h, results_of_value h]

end

/-- Lists that agree in one respect agree in every one that follows from it. -/
theorem map_eq_map {α β γ δ : Type} {f : α → γ} {g : β → γ} {f' : α → δ} {g' : β → δ}
    (h : ∀ x y, f x = g y → f' x = g' y) : ∀ {xs : List α} {ys : List β},
    xs.map f = ys.map g → xs.map f' = ys.map g'
  | [], [], _ => rfl
  | x :: xs, y :: ys, hs => by
    rw [List.map_cons, List.map_cons, List.cons.injEq] at hs
    rw [List.map_cons, List.map_cons, h x y hs.1, map_eq_map h hs.2]

/-- Lines in brackets, as a text. -/
theorem spell_enclosed {o c : String} {lines : List Line} {texts : List String}
    (h : lines.map (fun l => spell (l.lead ++ l.body)) = texts.map String.toList) :
    spell (Go.enclosed o c lines) = (o ++ "\n" ++ unlines texts ++ c).toList := by
  have hlines : spell (lines.flatMap Line.tokens) = texts.flatMap fun t => '\n' :: t.toList := by
    rw [Go.spell_flatMap, List.flatMap_def, List.flatMap_def]
    exact congrArg List.flatten (map_eq_map (fun l t hl => by simpa [Line.tokens] using hl) h)
  -- The line ends stand before the lines here, and after them in the text.
  have hends : ∀ ts : List String, (ts.flatMap fun t => '\n' :: t.toList) ++ ['\n'] =
      '\n' :: (unlines ts).toList := by
    intro ts
    induction ts with
    | nil => rfl
    | cons t ts ih => simp [ih]
  calc spell (Go.enclosed o c lines)
      = o.toList ++ ((texts.flatMap fun t => '\n' :: t.toList) ++ ['\n']) ++ c.toList := by
        simp [Go.enclosed, hlines]
    _ = (o ++ "\n" ++ unlines texts ++ c).toList := by
        rw [hends]
        simp

theorem spell_import (i : ImportLine) : '\t' :: spell i.tokens = i.value.line.toList := by
  obtain ⟨name, path⟩ := i
  cases name with
  | none | blank | dot =>
    simp [ImportLine.tokens, ImportName.tokens, ImportName.text, ImportLine.value, Import.line,
      Go.quoted]
  | name x =>
    obtain ⟨c, cs, hx, -⟩ := x.chars
    have hne : x.text ≠ "" := fun h => by simp [h] at hx
    simp [ImportLine.tokens, ImportName.tokens, ImportName.text, ImportLine.value, Import.line,
      Go.quoted, hne]

namespace Writes

variable {f : MockFile} {m : Mock} (h : Writes f m)
include h

theorem receiver_eq : m.receiver = "mocker" := by
  rw [Mock.receiver, h.structName]
  rfl

/-- The methods of the file are written for those of the mock, one by one. -/
theorem map_methods {α : Type} {g : ForwardingMethod → α} {g' : Method → α}
    (hg : ∀ x y, x.value = Method.written "mocker" y → g x = g' y) :
    f.methods.map g = m.methods.map g' :=
  map_eq_map hg (h.receiver_eq ▸ h.methods)

theorem spell_header : spell (Go.packageLine [MockFile.header, .newline, .newline]
    f.genPackage).fileTokens =
      ("// Code generated by shmock. DO NOT EDIT.\n\npackage " ++ m.genPackage ++ "\n").toList := by
  simp [Go.packageLine, Line.fileTokens, MockFile.header, h.genPackage]

theorem spell_group : spell (f.group.line [.newline]).fileTokens =
    ("\nimport (\n" ++ unlines (m.imports.map Import.line ++
      ["\n\t" ++ m.package ++ " \"" ++ m.modelPath ++ "\""]) ++ ")\n").toList := by
  have hlines : f.group.lines.map (fun l => spell (l.lead ++ l.body)) =
      (m.imports.map Import.line ++
        ["\n\t" ++ m.package ++ " \"" ++ m.modelPath ++ "\""]).map String.toList := by
    rw [← h.imports, MockFile.group, Go.ImportGroup.lines, ← h.package, ← h.modelPath]
    simp [ImportLine.line, ImportLine.tokens, ImportName.tokens, Go.quoted, ← spell_import]
  simp [Line.fileTokens, Go.ImportGroup.line, spell_enclosed hlines]

theorem spell_assertion : spell (Go.assertionLine f.package).fileTokens =
    ("\nvar _ " ++ m.package ++ ".Querier = (*Mocker)(nil)\n").toList := by
  simp [Line.fileTokens, Go.assertionLine, Go.targetType, Go.pointerTokens, TypeExpr.tokens,
    h.package]

theorem spell_struct : spell (Go.typeLine f.structComments Go.mocker "struct"
    (Go.fieldLines f.methods) (Go.structNode f.methods)).fileTokens =
      ("\n// Mocker is a " ++ m.package ++ ".Querier whose methods delegate to the\n" ++
        "// matching function fields. Calling a method whose field is nil panics.\n" ++
        "type Mocker struct " ++ openBrace ++ "\n" ++ unlines (m.methods.map (Method.fieldLine "mocker")) ++
        closeBrace ++ "\n").toList := by
  have hlines : (Go.fieldLines f.methods).map (fun l => spell (l.lead ++ l.body)) =
      (m.methods.map (Method.fieldLine "mocker")).map String.toList := by
    rw [Go.fieldLines, List.map_map, List.map_map]
    exact h.map_methods fun x y hv => spell_fieldLine hv
  simp [Line.fileTokens, Go.typeLine, MockFile.structComments, Go.mocker, spell_enclosed hlines,
    h.package]

theorem spell_methods : spell ((f.methods.map ForwardingMethod.line).flatMap Line.fileTokens) =
    (unlines (m.methods.flatMap (Method.lines "Mocker" "mocker"))).toList := by
  have hlines := h.map_methods fun x y hv => spell_method hv
  rw [Go.spell_flatMap, List.flatMap_map, List.flatMap_def, hlines, ← List.flatMap_def,
    unlines_flatMap, String.toList_join, List.flatMap_map]

/-- **The tokens of the file spell the generated text.** -/
theorem spell_lines : spell (f.lines.flatMap Line.fileTokens) = m.text.toList := by
  have hreceiver := h.receiver_eq
  rw [MockFile.lines, List.flatMap_cons, List.flatMap_cons, List.flatMap_cons, List.flatMap_cons,
    Go.spell_append, Go.spell_append, Go.spell_append, Go.spell_append, h.spell_header,
    h.spell_group, h.spell_assertion, h.spell_struct, h.spell_methods]
  simp [Mock.text, Mock.lines, hreceiver, h.structName]

/-- **The generated text is parsed**, as the file. -/
theorem parse_text : Go.parse m.text = some (Go.fileNode f.lines) := by
  refine f.parse_text (Go.tokens_of_spell h.spell_lines f.separate_lines ?_)
  have hhead : (spell (f.lines.flatMap Line.fileTokens)).head? = some '/' := rfl
  rw [← h.spell_lines, hhead]
  decide

end Writes

/-! ## The signatures of a generated mock -/

/-- **A generated mock has the signatures of its interface.** The built-in template prints a text for
every regular mock that is parsed. Its package is the one generated into, its imports are those of the
mock and then the package of the interface under its name, and the methods declared in it are those of
the mock, in order, with the parameters and results as they are written, whatever the package their
types are taken to be in. -/
theorem Mock.Regular.generated_signatures {m : Mock} (h : m.Regular) :
    ∃ text tree, m.renderWith Template.builtin = .ok text ∧ Go.parse text = some tree ∧
      Go.packageName tree = some m.genPackage ∧
      Go.imports tree = .ok (m.imports ++ [⟨m.modelPath, m.package⟩]) ∧
      ∀ package, Go.declaredMethods package tree = m.methods.map (Method.written "mocker") := by
  obtain ⟨f, hf⟩ := h.exists_file
  refine ⟨m.text, Go.fileNode f.lines,
    renderWith_of_parse Template.parse_builtin (Template.renderStmts_builtin m), hf.parse_text,
    ?_, ?_, fun package => ?_⟩
  · rw [f.packageName_lines, hf.genPackage]
  · rw [f.imports_lines, hf.imports, hf.modelPath, hf.package]
  · rw [f.declaredMethods_lines, hf.methods, hf.receiver_eq]

/-- A mock with names that have to be replaced. -/
def Mock.sample : Mock where
  genPackage := "mocks"
  modelPath := "example.com/app/db"
  package := "db"
  structName := "Mocker"
  imports := [⟨"context", ""⟩, ⟨"example.com/pg", "_"⟩, ⟨"example.com/model", "model"⟩]
  methods := [
    ⟨"Find", [⟨"ctx", "context.Context"⟩, ⟨"mocker", "[]*model.User"⟩, ⟨"_", "int64"⟩],
      [⟨"user", "*model.User"⟩, ⟨"err", "error"⟩]⟩,
    ⟨"Close", [], []⟩]

theorem Mock.sample_regular : sample.Regular where
  structName := rfl
  genPackage := by decide
  package := by decide
  modelPath := by decide
  imports := by
    simp only [sample, List.forall_mem_cons, List.not_mem_nil, false_imp_iff, implies_true,
      and_true]
    exact ⟨⟨by decide, by decide⟩, ⟨by decide, by decide⟩, ⟨by decide, by decide⟩⟩
  methods := by
    have hcontext : IsTypeText "context.Context" := .qualified (q := "context") (x := "Context")
      (by decide) (by decide)
    have huser : IsTypeText "*model.User" := .pointer (.qualified (q := "model") (x := "User")
      (by decide) (by decide))
    have hslice : IsTypeText "[]*model.User" := .slice huser
    have hint : IsTypeText "int64" := .name (by decide) (by decide)
    have herror : IsTypeText "error" := .name (by decide) (by decide)
    simp only [sample, List.forall_mem_cons, List.not_mem_nil, false_imp_iff, implies_true,
      and_true]
    refine ⟨⟨by decide, by decide, ?_, ?_⟩, ⟨by decide, by decide, ?_, ?_⟩⟩ <;>
      simp [hcontext, huser, hslice, hint, herror]

/-- The signatures of the sample: `mocker` and `_` are replaced, and the results lose their names. -/
theorem Mock.sample_signatures : sample.Regular ∧
    ∃ text tree, sample.renderWith Template.builtin = .ok text ∧ Go.parse text = some tree ∧
      Go.packageName tree = some "mocks" ∧
      Go.imports tree = .ok [⟨"context", ""⟩, ⟨"example.com/pg", "_"⟩,
        ⟨"example.com/model", "model"⟩, ⟨"example.com/app/db", "db"⟩] ∧
      ∀ package, Go.declaredMethods package tree = [
        ⟨"Find", [⟨"ctx", "context.Context"⟩, ⟨"arg1", "[]*model.User"⟩, ⟨"arg2", "int64"⟩],
          [⟨"", "*model.User"⟩, ⟨"", "error"⟩]⟩,
        ⟨"Close", [], []⟩] :=
  ⟨sample_regular, sample_regular.generated_signatures⟩

end Understudy
