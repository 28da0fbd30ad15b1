/-!
# Why a file operation fails

The causes that the operating system or the reading of text gives, and their wording.
-/

set_option autoImplicit false

namespace Understudy.Files

/-- Why a file operation fails. -/
inductive OsError where
  | notFound
  | badFormat
  | permissionDenied
  | exists
  | notDirectory
  | isDirectory
  | brokenPipe
  | nameTooLong
  | notEmpty
  | tooManyLinks
  | notText
  | nulInPath
  | emptyPath
deriving DecidableEq, Repr

/-- The wording of each cause. -/
def OsError.message : OsError → String
  | .notFound => "No such file or directory (os error 2)"
  | .badFormat => "Exec format error (os error 8)"
  | .permissionDenied => "Permission denied (os error 13)"
  | .exists => "File exists (os error 17)"
  | .notDirectory => "Not a directory (os error 20)"
  | .isDirectory => "Is a directory (os error 21)"
  | .brokenPipe => "Broken pipe (os error 32)"
  | .nameTooLong => "File name too long (os error 36)"
  | .notEmpty => "Directory not empty (os error 39)"
  | .tooManyLinks => "Too many levels of symbolic links (os error 40)"
  | .notText => "stream did not contain valid UTF-8"
  | .nulInPath => "file name contained an unexpected NUL byte"
  | .emptyPath => "cannot make an empty path absolute"

end Understudy.Files
