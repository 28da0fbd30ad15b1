import Understudy.Files.OsText

/-!
# Options of a run

One run reads one source file and writes one generated file.
-/

set_option autoImplicit false

namespace Understudy

open Files

/-- What a run is asked to do. -/
structure Options where
  input : OsText
  output : OsText
  /-- The template, or the built-in one where there is none. -/
  template : Option OsText := none
  /-- The package of the generated file, or the name of its directory where there is none. -/
  package : Option String := none
  /-- Whether the result is formatted. -/
  format : Bool := true
deriving DecidableEq, Repr

/-- The text, unless it is empty. -/
def nonempty? (s : Option String) : Option String := s.filter (fun t => t != "")

namespace Options

/-- The options for the given files, where an empty template or package counts as not given. -/
def make (input output : OsText) (template : Option OsText) (package : Option String)
    (format : Bool) : Options :=
  { input, output, template := template.filter (· != []), package := nonempty? package, format }

end Options

end Understudy
