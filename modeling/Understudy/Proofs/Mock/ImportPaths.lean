import Understudy.Proofs.Extraction
import Understudy.Proofs.Go.Literals
import Understudy.Proofs.Mock.Printer

/-!
# Import paths in the generated file

The path of an import is read from a literal of the source and written between double quotes as it
is. So it is read back from the generated file exactly if it has no quotes, backslashes and line
ends.

* `importLiterals_getElem?`: the literal in the source that an import comes from.
* `Mock.lines_import`: the line of an import in the generated file.
* `importPath_survives_iff`: when the path survives.
-/

set_option autoImplicit false

namespace Understudy

open Go
open Text (braced)

/-! ## From the source -/

namespace Go

theorem filterMap_getElem? {α β : Type} {f : α → Option β} {xs : List α}
    (h : ∀ x ∈ xs, ∃ y, f x = some y) {k : Nat} {x : α} {y : β} (hx : xs[k]? = some x)
    (hy : f x = some y) : (xs.filterMap f)[k]? = some y := by
  induction xs generalizing k with
  | nil => cases hx
  | cons first rest ih =>
    obtain ⟨z, hz⟩ := h first List.mem_cons_self
    rw [List.filterMap_cons_some hz]
    cases k with
    | zero =>
      cases hx
      exact hz.symm.trans hy
    | succ k => exact ih (fun x hx => h x (List.mem_cons_of_mem _ hx)) hx

/-- **Every import comes from a literal** of the source, in the same place. -/
theorem importLiterals_getElem? {file : Node} (h : file.Formed) (hk : file.kind = .sourceFile)
    {is : List Import} (his : imports file = .ok is) {k : Nat} {i : Import} (hi : is[k]? = some i) :
    ∃ literal, (importLiterals file)[k]? = some literal ∧ unquote literal = .ok i.path := by
  rw [imports, importSpecs_eq h hk] at his
  obtain ⟨spec, hspec, himport⟩ := importsOf_getElem? his hi
  obtain ⟨path, hpath, hvalue, _⟩ := exists_of_importOf himport
  refine ⟨path.text, filterMap_getElem? (fun s hs => ?_) hspec (by rw [hpath]; rfl), hvalue⟩
  obtain ⟨hmem, himport⟩ := List.mem_filter.1 hs
  obtain ⟨p, hp⟩ := (h.preorder hmem).exists_path himport
  exact ⟨p.text, by rw [hp]; rfl⟩

end Go

/-! ## Into the generated file -/

/-- The name of an import and a blank, if it has a name. -/
def Import.label (i : Import) : String := if i.name = "" then "" else i.name ++ " "

theorem Import.line_eq (i : Import) : i.line = "\t" ++ i.label ++ quoted i.path := by
  simp only [Import.line, Import.label, quoted, String.append_assoc]

/-- The imports of the source follow the five lines of the header. -/
theorem Mock.lines_import {m : Mock} {k : Nat} {i : Import} (hi : m.imports[k]? = some i) :
    m.lines[5 + k]? = some ("\t" ++ i.label ++ quoted i.path) := by
  have hlt : k < (m.imports.map Import.line).length := by
    rw [List.length_map]
    exact (List.getElem?_eq_some_iff.1 hi).1
  simp only [lines, List.append_assoc]
  rw [List.getElem?_append_right (by simp), List.getElem?_append_left (by simpa using hlt)]
  simp [hi, Import.line_eq]

/-- **When an import path survives.** The path of an import is what a literal of the source means,
in the same place. The generated file has a line for it with the path between quotes, and this
literal means the path again if and only if the path has no quotes, backslashes and line ends. -/
theorem importPath_survives_iff (genPackage modelPath : String) {source : String} {file : Node}
    {mock : Mock} (hparse : parse source = some file) (hextract : (extract file).outcome = .ok mock)
    {k : Nat} {i : Import} (hi : mock.imports[k]? = some i) :
    (∃ literal, (importLiterals file)[k]? = some literal ∧ unquote literal = .ok i.path) ∧
    { mock with genPackage, modelPath }.renderWith Template.builtin =
      .ok (unlines { mock with genPackage, modelPath }.lines) ∧
    { mock with genPackage, modelPath }.lines[5 + k]? = some ("\t" ++ i.label ++ quoted i.path) ∧
    (unquote (quoted i.path) = .ok i.path ↔
      ∀ c ∈ i.path.toList, c ≠ '"' ∧ c ≠ '\\' ∧ c ≠ '\n') := by
  refine ⟨?_, ?_, Mock.lines_import hi, ?_⟩
  · obtain ⟨package, spec, is, _, _, his, rfl⟩ := exists_of_extract_eq_ok hextract
    exact importLiterals_getElem? (parse_formed hparse) (kind_of_parse hparse) his hi
  · exact Mock.renderWith_of_parse Template.parse_builtin (Template.renderStmts_builtin _)
  · rw [unquote_quoted_iff, List.all_eq_true]
    simp only [Token.isPlain, Bool.and_eq_true, bne_iff_ne, ne_eq, and_assoc]

/-- A source with a raw literal as the path of an import. -/
def rawImportSource : String := "package p\n\nimport x `q/r`\n\ntype Querier interface " ++ braced "\n" ++ "\n"

/-- The path between backquotes is written between quotes and means the same. -/
theorem rawImport_survives : ∃ file, parse rawImportSource = some file ∧
    (extract file).outcome = .ok ⟨"", "", "p", mockName, [⟨"q/r", "x"⟩], []⟩ ∧
    (importLiterals file)[0]? = some "`q/r`" ∧
    unquote (quoted "q/r") = .ok "q/r" := by
  have hread : (parse rawImportSource).bind (fun file =>
      (extract file).outcome.toOption.map fun mock => (mock, (importLiterals file)[0]?)) =
      some (⟨"", "", "p", mockName, [⟨"q/r", "x"⟩], []⟩, some "`q/r`") := by decide +kernel
  obtain ⟨file, hparse, hread⟩ := Option.bind_eq_some_iff.1 hread
  obtain ⟨mock, hextract, hpair⟩ := Option.map_eq_some_iff.1 hread
  obtain ⟨rfl, hliteral⟩ := Prod.mk.inj hpair
  have hextract := eq_ok_of_toOption hextract
  have hsurvives := importPath_survives_iff "mocks" "example.com/p" hparse hextract (k := 0) rfl
  exact ⟨file, hparse, hextract, hliteral, hsurvives.2.2.2.2 (by simp)⟩

/-- A source with an escaped quote in the path of an import. -/
def quoteImportSource : String :=
  "package p\n\nimport \"a\\\"b\"\n\ntype Querier interface " ++ braced "\n" ++ "\n"

/-- The complete description of the mock for that source. -/
def quoteImportMock : Mock := ⟨"mocks", "example.com/p", "p", mockName, [⟨"a\"b", ""⟩], []⟩

/-- **A quote in a path is not escaped again**: the literal in the generated file has no meaning. -/
theorem quoteImport_lost :
    (∃ file, parse quoteImportSource = some file ∧
      (extract file).outcome = .ok { quoteImportMock with genPackage := "", modelPath := "" }) ∧
    quoteImportMock.renderWith Template.builtin = .ok (unlines quoteImportMock.lines) ∧
    quoteImportMock.lines[5]? = some "\t\"a\"b\"" ∧
    unquote "\"a\"b\"" = .error .strayQuote := by
  have hread : (parse quoteImportSource).bind (fun file => (extract file).outcome.toOption) =
      some { quoteImportMock with genPackage := "", modelPath := "" } := by decide +kernel
  obtain ⟨file, hparse, hextract⟩ := Option.bind_eq_some_iff.1 hread
  exact ⟨⟨file, hparse, eq_ok_of_toOption hextract⟩,
    Mock.renderWith_of_parse Template.parse_builtin (Template.renderStmts_builtin _), by decide,
    by cbv⟩

end Understudy
