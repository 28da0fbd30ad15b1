import Understudy.Attempt
import Understudy.Template.Builtin
import Understudy.Template.Render

/-!
# Mocks in templates

The names that a template can use to print a mock, and the text that a template makes of one.
-/

set_option autoImplicit false

namespace Understudy

open Template

/-- A field as a template sees it. -/
def Field.value (f : Field) : Value := .record [("Name", .text f.name), ("Type", .text f.type)]

/-- A method as a template sees it. -/
def Method.value (m : Method) : Value :=
  .record [("Name", .text m.name), ("Input", .list (m.input.map Field.value)),
    ("Output", .list (m.output.map Field.value))]

/-- An import as a template sees it. -/
def Import.value (i : Import) : Value := .record [("Path", .text i.path), ("Name", .text i.name)]

namespace Mock

/-- The names that a template can use. -/
def bindings (m : Mock) : Bindings := [
  ("GenPackage", .text m.genPackage), ("ModelPath", .text m.modelPath),
  ("Package", .text m.package), ("Struct", .text m.structName),
  ("Imports", .list (m.imports.map Import.value)),
  ("Methods", .list (m.methods.map Method.value))]

/-- The text that a template makes of a mock. -/
def renderWith (template : String) (m : Mock) : Except Failure String :=
  match Template.parse template with
  | .error e => .error (.templateSyntax e)
  | .ok statements =>
    match renderStmts statements m.bindings with
    | .error e => .error (.templateRender e)
    | .ok text => .ok text

end Mock

end Understudy
