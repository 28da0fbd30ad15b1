import Understudy.Text.Brace

/-!
# The built-in template

The template of a mock: a structure with one function field for each method of the interface, and
the methods that call these fields. A parameter without a name of its own, or with the name of the
receiver, is called `arg` and its place.
-/

set_option autoImplicit false

namespace Understudy.Template

open Text

/-- The tag of a statement. -/
def tag (statement : String) : String := braced ("% " ++ statement ++ " %")

/-- The tag that prints the value of an expression. -/
def printed (expr : String) : String := braced (braced (" " ++ expr ++ " "))

/-- Prints the name of the parameter `f`. -/
def parameterName : String :=
  printed "f.Name if f.Name and f.Name not in [\"_\", recv] else \"arg\" ~ loop.index0"

/-- Prints a comma, except after the last item. -/
def comma : String := printed "\", \" if not loop.last else \"\""

/-- The lines of the built-in template. -/
def builtinLines : List String := [
  tag "macro params(fields, recv)" ++ "{% for f in fields %}" ++ parameterName ++ " {{ f.Type }}" ++
    comma ++ "{% endfor %}" ++ tag "endmacro",
  tag "macro call_args(fields, recv)" ++ "{% for f in fields %}" ++ parameterName ++ comma ++
    "{% endfor %}" ++ tag "endmacro",
  tag "macro results(fields)" ++ "{% if fields %} ({% for f in fields %}{{ f.Type }}" ++ comma ++
    "{% endfor %}){% endif %}" ++ tag "endmacro",
  "{% set recv = Struct | lcfirst %}",
  "// Code generated by shmock. DO NOT EDIT.",
  "",
  "package {{ GenPackage }}",
  "",
  "import (",
  "{% for imp in Imports %}",
  "\t" ++ printed "imp.Name ~ \" \" if imp.Name else \"\"" ++ "\"{{ imp.Path }}\"",
  "{% endfor %}",
  "",
  "\t{{ Package }} \"{{ ModelPath }}\"",
  ")",
  "",
  "var _ {{ Package }}.Querier = (*{{ Struct }})(nil)",
  "",
  "// {{ Struct }} is a {{ Package }}.Querier whose methods delegate to the",
  "// matching function fields. Calling a method whose field is nil panics.",
  "type {{ Struct }} struct " ++ openBrace,
  "{% for m in Methods %}",
  "\t{{ m.Name }}Func func({{ params(m.Input, recv) }}){{ results(m.Output) }}",
  "{% endfor %}",
  closeBrace,
  "{% for m in Methods %}",
  "",
  "// {{ m.Name }} calls {{ m.Name }}Func.",
  "func ({{ recv }} *{{ Struct }}) {{ m.Name }}({{ params(m.Input, recv) }}){{ results(m.Output) }} " ++
    openBrace,
  "\tif {{ recv }}.{{ m.Name }}Func == nil " ++ openBrace,
  "\t\tpanic(\"{{ Struct }}.{{ m.Name }}Func is not set\")",
  "\t" ++ closeBrace,
  "\t" ++ printed "\"return \" if m.Output else \"\"" ++
    "{{ recv }}.{{ m.Name }}Func({{ call_args(m.Input, recv) }})",
  closeBrace,
  "{% endfor %}"]

/-- The built-in template. -/
def builtin : String := String.join (builtinLines.map (fun line => line ++ "\n"))

end Understudy.Template
