import Understudy.Files.OsError
import Understudy.Files.Path

/-!
# Files on a disk

A disk holds directories, files and links under their real names, which are lists of names from
the root down, and has a current directory. A path is walked name by name. Links on the way are
followed, at most forty of them.

* `Disk.get?` is what stands under a real name.
* `Disk.locate` walks a path.
* `Disk.readBytes`, `Disk.readText`, `Disk.isFile` and `Disk.isDirectory` look at what a path leads
  to, `Disk.canonical` and `Disk.canonicalize` are its real name and its real path.
-/

set_option autoImplicit false

namespace Understudy.Files

-- Bytes can be compared in more than one way. This is the one meant here.
local instance (priority := 2000) decidableEqBytes : DecidableEq ByteArray :=
  ByteArray.instDecidableEq

/-- What stands under a name. -/
inductive Item where
  | directory
  | file (content : ByteArray) (executable : Bool)
  | link (target : OsText)
deriving DecidableEq

/-- A disk with a current directory. -/
structure Disk where
  entries : List (List OsText × Item)
  cwd : List OsText

namespace Disk

/-- What stands under a real name. The root is a directory. -/
def get? (d : Disk) (names : List OsText) : Option Item :=
  if names = [] then some .directory else d.entries.lookup names

/-- The disk with an item under a real name. -/
def put (d : Disk) (names : List OsText) (item : Item) : Disk :=
  { d with entries := (names, item) :: d.entries.filter (fun e => e.1 != names) }

/-- The disk without the real name and all that is below it. -/
def erase (d : Disk) (names : List OsText) : Disk :=
  { d with entries := d.entries.filter (fun e => !names.isPrefixOf e.1) }

/-! ## Walking -/

/-- Where a path leads. -/
inductive Place where
  /-- To something that is there. -/
  | entry (names : List OsText) (item : Item)
  /-- To a name in a directory under which nothing stands. -/
  | vacant (dir : List OsText) (name : OsText)
deriving DecidableEq

/-- The longest name that can be given, in bytes. -/
def nameLimit : Nat := 255

/-- The longest path that can be walked, in bytes. -/
def pathLimit : Nat := 4095

/-- How many links are followed. -/
def linkLimit : Nat := 40

/-- The steps of a path. A slash at the end asks for a directory, as a step `.` does. -/
def steps (path : OsText) : List OsText :=
  (Path.pieces path).filter (fun piece => piece != []) ++
    (if Path.endsInSlash path then [Path.dot] else [])

/-- Walks the steps from a directory. `follow` goes on from a directory with the steps of a link,
and `last` says whether a link in the last step is followed. -/
def walkSteps (d : Disk) (follow : List OsText → List OsText → Except OsError Place) (last : Bool) :
    List OsText → List OsText → Except OsError Place
  | dir, [] => .ok (.entry dir .directory)
  | dir, step :: rest =>
    if step = Path.dot then walkSteps d follow last dir rest
    else if step = Path.dotDot then walkSteps d follow last dir.dropLast rest
    else if nameLimit < step.length then .error .nameTooLong
    else
      let here := dir ++ [step]
      match d.get? here with
      | none => if rest = [] then .ok (.vacant dir step) else .error .notFound
      | some .directory => walkSteps d follow last here rest
      | some (.file content executable) =>
        if rest = [] then .ok (.entry here (.file content executable)) else .error .notDirectory
      | some (.link target) =>
        if rest = [] ∧ last = false then .ok (.entry here (.link target))
        else follow (if Path.isAbsolute target then [] else dir) (steps target ++ rest)

/-- Walks the steps from a directory, following at most `links` links. -/
def walk (d : Disk) (last : Bool) : (links : Nat) → List OsText → List OsText →
    Except OsError Place
  | 0 => walkSteps d (fun _ _ => .error .tooManyLinks) last
  | links + 1 => walkSteps d (walk d last links) last

/-- Walks a path. `last` says whether a link in the last step is followed. -/
def locate (d : Disk) (last : Bool) (path : OsText) : Except OsError Place :=
  if path = [] then .error .notFound
  else if path.contains 0 then .error .nulInPath
  else if pathLimit < path.length then .error .nameTooLong
  else d.walk last linkLimit (if Path.isAbsolute path then [] else d.cwd) (steps path)

/-! ## Looking -/

/-- What a place that is walked to holds. -/
def itemAt : Except OsError Place → Except OsError (List OsText × Item)
  | .error e => .error e
  | .ok (.vacant _ _) => .error .notFound
  | .ok (.entry names item) => .ok (names, item)

/-- The bytes of a file. -/
def bytesOf : Except OsError (List OsText × Item) → Except OsError ByteArray
  | .error e => .error e
  | .ok (_, .file content _) => .ok content
  | .ok (_, .directory) => .error .isDirectory
  | .ok (_, .link _) => .error .tooManyLinks

/-- The bytes as text. -/
def textOf (bytes : Except OsError ByteArray) : Except OsError String :=
  match bytes with
  | .error e => .error e
  | .ok b =>
    match String.fromUTF8? b with
    | some s => .ok s
    | none => .error .notText

/-- The bytes of the file that a path leads to. -/
def readBytes (d : Disk) (path : OsText) : Except OsError ByteArray :=
  bytesOf (itemAt (d.locate true path))

/-- The text of the file that a path leads to. -/
def readText (d : Disk) (path : OsText) : Except OsError String := textOf (d.readBytes path)

/-- Whether a path leads to a file. -/
def isFile (d : Disk) (path : OsText) : Bool :=
  match d.locate true path with
  | .ok (.entry _ (.file _ _)) => true
  | _ => false

/-- Whether a path leads to a directory. -/
def isDirectory (d : Disk) (path : OsText) : Bool :=
  match d.locate true path with
  | .ok (.entry _ .directory) => true
  | _ => false

/-- The real name of what a path leads to. -/
def canonical (d : Disk) (path : OsText) : Except OsError (List OsText) :=
  match itemAt (d.locate true path) with
  | .error e => .error e
  | .ok (names, _) => .ok names

/-- The real path of what a path leads to, if it is not too long to be walked. -/
def canonicalize (d : Disk) (path : OsText) : Except OsError OsText :=
  match d.canonical path with
  | .error e => .error e
  | .ok names =>
    let real := Path.ofNames names
    if pathLimit < real.length then .error .nameTooLong else .ok real

end Disk

end Understudy.Files
