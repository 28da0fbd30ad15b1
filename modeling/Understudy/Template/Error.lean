/-!
# Faults of a template

A template fails when it is read or when it is evaluated. A fault is known by its sort and by the
line of the template on which it lies.
-/

set_option autoImplicit false

namespace Understudy.Template

/-- The sorts of faults. -/
inductive Fault where
  | badSyntax
  | badEscape
  | undefined
  | unknownFilter
  | unknownTest
  | unknownFunction
  | unknownMethod
  | tooManyArguments
  | missingArgument
  | invalidOperation
  | cannotUnpack
deriving DecidableEq, Repr

/-- A fault on a line, counted from one. -/
structure Error where
  fault : Fault
  line : Nat
deriving DecidableEq, Repr

end Understudy.Template
