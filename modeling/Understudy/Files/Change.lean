import Understudy.Files.Disk

/-!
# Changes of a disk

Making directories, writing files, making links and removing. A change that fails leaves the disk
as it is, except that making a directory with its parents keeps the parents that it has made.
-/

set_option autoImplicit false

namespace Understudy.Files.Disk

/-! ## Directories -/

/-- The path without slashes at its end. -/
def trimSlashes (path : OsText) : OsText :=
  (path.reverse.dropWhile (· == Path.slash)).reverse

/-- Makes a directory in a directory that is there. -/
def makeDirectory (d : Disk) (path : OsText) : Except OsError Disk :=
  let bare := trimSlashes path
  if bare = [] then .error (if path = [] then .notFound else .exists)
  else
    match d.locate false bare with
    | .error e => .error e
    | .ok (.entry _ _) => .error .exists
    | .ok (.vacant dir name) => .ok (d.put (dir ++ [name]) .directory)

/-- What making a directory comes to when it may be there already. -/
def directoryMade (d : Disk) (path : OsText) : Disk × Except OsError Unit :=
  match d.makeDirectory path with
  | .ok d' => (d', .ok ())
  | .error e => (d, if d.isDirectory path then .ok () else .error e)

/-- Makes a directory and the parents that are missing, which are at most `fuel`. -/
def makeDirectoriesUpTo : (fuel : Nat) → Disk → OsText → Disk × Except OsError Unit
  | 0, d, path => directoryMade d path
  | fuel + 1, d, path =>
    if path = [] then (d, .ok ())
    else
      match d.makeDirectory path with
      | .ok d' => (d', .ok ())
      | .error .notFound =>
        match Path.parent? path with
        | none => (d, .error .notFound)
        | some parent =>
          match makeDirectoriesUpTo fuel d parent with
          | (d', .error e) => (d', .error e)
          | (d', .ok ()) => directoryMade d' path
      | .error e => (d, if d.isDirectory path then .ok () else .error e)

/-- Makes a directory and the parents that are missing. -/
def makeDirectories (d : Disk) (path : OsText) : Disk × Except OsError Unit :=
  makeDirectoriesUpTo (Path.pieces path).length d path

/-! ## Files and links -/

/-- The real name under which a file is written, and whether it stays executable. A path with a
slash at its end names no file, whatever is there. -/
def fileTarget (d : Disk) (path : OsText) : Except OsError (List OsText × Bool) :=
  let bare := trimSlashes path
  if bare = path then
    match d.locate true path with
    | .error e => .error e
    | .ok (.vacant dir name) => .ok (dir ++ [name], false)
    | .ok (.entry names (.file _ executable)) => .ok (names, executable)
    | .ok (.entry _ _) => .error .isDirectory
  else if bare = [] then .error .isDirectory
  else
    match d.locate false bare with
    | .error e => .error e
    | .ok _ => .error .isDirectory

/-- Writes a file, new or in place of its content. -/
def writeFile (d : Disk) (path : OsText) (content : ByteArray) : Except OsError Disk :=
  match d.fileTarget path with
  | .error e => .error e
  | .ok (names, executable) => .ok (d.put names (.file content executable))

/-- Makes the file that a path leads to executable. -/
def makeExecutable (d : Disk) (path : OsText) : Except OsError Disk :=
  match itemAt (d.locate true path) with
  | .error e => .error e
  | .ok (names, .file content _) => .ok (d.put names (.file content true))
  | .ok _ => .ok d

/-- Makes a link in a directory that is there. -/
def makeLink (d : Disk) (path target : OsText) : Except OsError Disk :=
  match d.locate false path with
  | .error e => .error e
  | .ok (.entry _ _) => .error .exists
  | .ok (.vacant dir name) => .ok (d.put (dir ++ [name]) (.link target))

/-- Removes a file, a link, or a directory with all that is below it. -/
def remove (d : Disk) (path : OsText) : Except OsError Disk :=
  match itemAt (d.locate false path) with
  | .error e => .error e
  | .ok (names, _) => .ok (d.erase names)

/-! ## Listing -/

/-- The names below a directory, relative to it, in order; directories end in a slash. -/
def list (d : Disk) (dir : List OsText) : List OsText :=
  let below := d.entries.filterMap (fun e =>
    if dir.isPrefixOf e.1 && e.1 != dir then
      let name := Path.ofPieces (e.1.drop dir.length)
      some (if e.2 = .directory then name ++ [Path.slash] else name)
    else none)
  below.mergeSort (fun a b => decide (a ≤ b))

end Understudy.Files.Disk
