import Gatehouse.Log.RollingFile

/-!
# Paths of rolling files

A file stands in the directory of its sink under its name. Its date is told by the name alone, which
is what its path ends in.
-/
namespace Gatehouse

namespace Folder

/-- A path that goes on from a directory, unless it starts at the root. -/
def join (directory path : List Char) : List Char :=
  if isRooted path then path
  else if directory.getLast?.any (· != '/') then directory ++ '/' :: path
  else directory ++ path

/-- The name that a path ends in. Steps that stay where they are do not count, and a step out of a
directory is no name. -/
def lastName? (path : List Char) : Option String :=
  ((parts path).filter fun part => !isIdle part).getLast?.filter isName

end Folder

namespace RollingFile

/-- The path of a file, which goes on from the directory's own. -/
def pathIn (directory : List Char) (policy : Policy) (date : Date) (index : Nat) : List Char :=
  Folder.join directory (fileNameChars policy.stem.toList date index)

/-- The date that a path holds in the name it ends in. -/
def pathDate? (stem path : List Char) : Option Date :=
  (Folder.lastName? path).bind fun name => fileDate? stem name.toList

end RollingFile

end Gatehouse
