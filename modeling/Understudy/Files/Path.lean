import Understudy.Files.OsError
import Understudy.Files.OsText
import Understudy.Text.WhiteSpace

/-!
# Paths

A path is made of pieces with slashes between them. Empty pieces and pieces `.` name nothing,
except that a path may begin with `.`; a piece `..` names the directory above.

* `pieces` are all pieces, `names` those that name something, `components` what they stand for.
* `parent?` is the text of the path without its last component, `fileName?` is that component.
* `ancestors` are a path and its parents.
* `join` puts a path below another one.
* `stripPrefix?` is what a path has below another one.
* `absolute` is a path from the root.
-/

set_option autoImplicit false

namespace Understudy.Files.Path

open Text

/-- The byte between the pieces of a path. -/
def slash : UInt8 := 47

/-- The piece that stands for the directory itself. -/
def dot : OsText := [46]

/-- The piece that stands for the directory above. -/
def dotDot : OsText := [46, 46]

@[simp]
theorem dotDot_ne_dot : dotDot ≠ dot := by decide

/-- The pieces between the slashes of a path, empty ones included. -/
def pieces (path : OsText) : List OsText := splitBy (· == slash) path

/-- Whether a path begins at the root. -/
def isAbsolute (path : OsText) : Bool := path.head? == some slash

/-- Whether a path ends in a slash. -/
def endsInSlash (path : OsText) : Bool := path.getLast? == some slash

/-- Whether a piece names something. -/
def isName (piece : OsText) : Bool := piece != [] && piece != dot

/-- The pieces of a path that name something. -/
def names (path : OsText) : List OsText := (pieces path).filter isName

/-- The pieces with slashes between them. -/
def ofPieces (pieces : List OsText) : OsText := [slash].intercalate pieces

/-- The text of an absolute path. -/
def ofNames (names : List OsText) : OsText := slash :: ofPieces names

/-! ## Components -/

/-- What a piece of a path stands for. -/
inductive Component where
  | root
  | here
  | above
  | name (text : OsText)
deriving DecidableEq

namespace Component

/-- What a piece behind a slash stands for, if it names something. -/
def ofPiece (piece : OsText) : Component := if piece = dotDot then above else name piece

/-- What the first piece of a path stands for. -/
def ofFirst (piece : OsText) : Component :=
  if piece = [] then root else if piece = dot then here else ofPiece piece

/-- How a component is written. -/
def text : Component → OsText
  | root => [slash]
  | here => dot
  | above => dotDot
  | name text => text

/-- The name that a component is. -/
def name? : Component → Option OsText
  | name text => some text
  | _ => none

end Component

/-- What the pieces of a path stand for. -/
def ofSplit : List OsText → List Component
  | [] => []
  | first :: rest => .ofFirst first :: (rest.filter isName).map .ofPiece

/-- What a path is made of. -/
def components (path : OsText) : List Component :=
  if path = [] then [] else ofSplit (pieces path)

/-- The last component of a path, if it is a name. -/
def fileName? (path : OsText) : Option OsText := (components path).getLast?.bind Component.name?

/-- The components behind those of a base, if all of the base are in front of them. -/
def below? : (base path : List Component) → Option (List Component)
  | [], path => some path
  | _ :: _, [] => none
  | b :: base, c :: path => if b = c then below? base path else none

/-- The components of a path below a base, if it begins with those of the base. -/
def stripPrefix? (base path : OsText) : Option (List Component) :=
  below? (components base) (components path)

/-! ## Parents -/

/-- The pieces, from the last one, without those at the front that are no components. The first
piece of a path is a component also if it is `.`. -/
def dropIdle : List OsText → List OsText
  | [] => []
  | [piece] => if piece = [] then [] else [piece]
  | piece :: rest => if isName piece then piece :: rest else dropIdle rest

/-- The text of the path without its last component, if it has a component. -/
def parent? (path : OsText) : Option OsText :=
  match dropIdle (pieces path).reverse with
  | [] => none
  | _ :: rest =>
    match dropIdle rest with
    | [] => some (if isAbsolute path then [slash] else [])
    | kept => some (ofPieces kept.reverse)

/-- A path and its parents, up to `fuel` of them. -/
def ancestorsUpTo : (fuel : Nat) → OsText → List OsText
  | 0, path => [path]
  | fuel + 1, path =>
    match parent? path with
    | none => [path]
    | some p => path :: ancestorsUpTo fuel p

/-- A path and its parents, from the path upwards. -/
def ancestors (path : OsText) : List OsText := ancestorsUpTo (pieces path).length path

/-! ## Joining -/

/-- The path in a directory. A path from the root takes the place of the directory. -/
def join (dir path : OsText) : OsText :=
  if isAbsolute path then path
  else if dir = [] ∨ endsInSlash dir = true then dir ++ path
  else dir ++ slash :: path

/-- The components without a `.` in front. -/
def dropHere : List Component → List Component
  | .here :: rest => rest
  | all => all

/-- Whether a path begins with exactly two slashes. -/
def hasTwoSlashes (path : OsText) : Bool :=
  path.take 2 == [slash, slash] && path.take 3 != [slash, slash, slash]

/-- The path that the components of an absolute path are put below, and the components. Two slashes
in front of it are kept, more of them are one. -/
def absoluteStart (cwd path : OsText) : OsText × List Component :=
  let all := dropHere (components path)
  if !isAbsolute path then (cwd, all)
  else if hasTwoSlashes path then ([slash, slash], all.tail)
  else ([], all)

/-- The path from the root, where the current directory is `cwd`. A slash at the end is kept. -/
def absolute (cwd path : OsText) : Except OsError OsText :=
  if path = [] then .error .emptyPath
  else
    let (start, below) := absoluteStart cwd path
    let whole := below.foldl (fun made c => join made c.text) start
    .ok (if endsInSlash path then join whole [] else whole)

end Understudy.Files.Path
