/-!
# What a mock is made from

The description of an interface and of the file that is generated for it: its methods with their
parameters and results, the imports of the source file, and the names of the packages involved.
-/

set_option autoImplicit false

namespace Understudy

/-- A parameter or a result. -/
structure Field where
  /-- The name as declared, empty where there is none. -/
  name : String
  /-- The text of the type. -/
  type : String
deriving DecidableEq, Repr

/-- A method of the interface. -/
structure Method where
  name : String
  input : List Field
  output : List Field
deriving DecidableEq, Repr

/-- An imported package. -/
structure Import where
  path : String
  /-- The name given to the package, `_` and `.` included; empty where there is none. -/
  name : String
deriving DecidableEq, Repr

/-- All that a generated file is made from. -/
structure Mock where
  /-- The package of the generated file. -/
  genPackage : String
  /-- The import path of the package that declares the interface. -/
  modelPath : String
  /-- The name of the package that declares the interface. -/
  package : String
  /-- The name of the generated type. -/
  structName : String
  imports : List Import
  methods : List Method
deriving DecidableEq, Repr

/-- The name that every generated type has. -/
def mockName : String := "Mocker"

/-- The name of the interface that is looked for. -/
def targetName : String := "Querier"

end Understudy
