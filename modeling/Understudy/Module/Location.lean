import Understudy.Attempt
import Understudy.Files.Disk
import Understudy.Module.GoMod

/-!
# Where a package lies in its module

The module of a package is declared by the nearest `go.mod` file in the real directory of the
package or above it. The import path of the package is the path of the module followed by the names
of the directories from there down to the package.

* `findModuleRoot` is the nearest directory with a module file.
* `modelPath` is the import path of the package that a file belongs to.
-/

set_option autoImplicit false

namespace Understudy

open Files

/-- The name of a module file. -/
def moduleFile : OsText := "go.mod"

/-- The first of a directory and its parents that holds a module file. -/
def findModuleRoot (d : Disk) (dir : OsText) : Option OsText :=
  (Path.ancestors dir).find? (fun a => d.isFile (Path.join a moduleFile))

/-- The path of a module followed by the names among the components. -/
def packagePath (modulePath : String) (below : List Path.Component) : String :=
  (below.filterMap Path.Component.name?).foldl (fun path name => path ++ "/" ++ name.lossy)
    modulePath

/-- The module path that a module file declares. -/
def declaredModule (d : Disk) (file : OsText) : Except Failure String :=
  match d.readText file with
  | .error e => .error (.unreadable file e)
  | .ok content =>
    match GoMod.modulePath content with
    | .error e => .error (.module (.badModule (some file) e))
    | .ok path => .ok path

/-- The import path of the package in a directory. -/
def packageIn (d : Disk) (dir : OsText) : Attempt String := do
  match findModuleRoot d dir with
  | none => Attempt.fail (.module (.noModule dir))
  | some root =>
    Attempt.report [.moduleRoot root]
    let path ← Attempt.ofExcept (declaredModule d (Path.join root moduleFile))
    match Path.stripPrefix? root dir with
    | none => Attempt.fail (.module (.notBelow dir))
    | some below => return packagePath path below

/-- The import path of the package that a file belongs to. -/
def modelPath (d : Disk) (input : OsText) : Attempt String :=
  match d.canonicalize input with
  | .error e => Attempt.fail (.unreadable input e)
  | .ok real =>
    match Path.parent? real with
    | none => Attempt.fail (.module (.noParent real))
    | some dir => packageIn d dir

end Understudy
