/-!
# Failures of files

The ways in which a file cannot be opened, made or removed.
-/
namespace Gatehouse

inductive FileError
  | alreadyExists
  | missing
  | isDirectory
  | notDirectory
  | nameTooLong
  | nulInName
deriving DecidableEq

namespace FileError

def message : FileError → String
  | .alreadyExists => "File exists (os error 17)"
  | .missing => "No such file or directory (os error 2)"
  | .isDirectory => "Is a directory (os error 21)"
  | .notDirectory => "Not a directory (os error 20)"
  | .nameTooLong => "File name too long (os error 36)"
  | .nulInName => "file name contained an unexpected NUL byte"

/-- What a sink says of a failure. -/
def sinkMessage (error : FileError) : String := s!"sink I/O error: {error.message}"

end FileError

end Gatehouse
