import Gatehouse.Log.FileError
import Gatehouse.Text.Utf8

/-!
# The folder of log files

Files and directories, found by the paths that lead to them from the folder. A path may climb out
of the folder and come back; what it leaves outside is kept, and is no part of the listing. A file
keeps its identity while it is open, so bytes written to a file that was removed go nowhere, also
when another file took its place.
-/
namespace Gatehouse

/-- The names that lead to a place from the root, the innermost one first. -/
abbrev Place := List String

inductive Entry
  | file (identity : Nat) (bytes : List UInt8)
  | directory

/-- Each place stands once in `entries`; identities below `fresh` are taken. -/
structure Folder where
  /-- The folder's own place. The directories on the way to it hold nothing else that is known. -/
  home : Place
  /-- The bytes that lead from the root into the folder. -/
  reach : Nat
  entries : List (Place × Entry)
  fresh : Nat

/-- Where a path leads: to a place in a directory that exists, or to such a directory itself. -/
inductive Target
  | inside (place : Place) (endsInSlash : Bool)
  | directory

namespace Folder

/-! ## Paths -/

def isRooted (path : List Char) : Bool := path.head? == some '/'

/-- The parts of a path between its slashes; some may be empty. -/
def parts (path : List Char) : List String := (path.splitOn '/').map String.ofList

/-- Whether a part of a path leads from a directory to itself. -/
def isIdle (part : String) : Bool := part == "" || part == "."

/-- Whether a part of a path is the name of an entry. -/
def isName (part : String) : Bool := !isIdle part && part != ".."

/-- The place that a part leads to. -/
def follow (place : Place) (part : String) : Place :=
  if isIdle part then place else if part == ".." then place.tail else part :: place

/-- The bytes of a name. -/
def size (name : String) : Nat := (Utf8.encode name.toList).length

/-- The longest name of an entry, in bytes. -/
def nameLimit : Nat := 255

/-- The longest path, in bytes and from the root. -/
def pathLimit : Nat := 4095

/-- What stands at a place. The directories on the way to the folder always stand. -/
def find? (folder : Folder) (place : Place) : Option Entry :=
  if place.isSuffixOf folder.home then some .directory else folder.entries.lookup place

/-- What stands at a place of a directory, whose file system refuses a long name. -/
def look (folder : Folder) (place : Place) : Except FileError (Option Entry) :=
  if place.head?.any (nameLimit < size ·) then .error .nameTooLong else .ok (folder.find? place)

/-- The directory that a part leads to from another directory. -/
def enter (folder : Folder) (place : Place) (part : String) : Except FileError Place :=
  if isName part then
    match folder.look (part :: place) with
    | .error error => .error error
    | .ok none => .error .missing
    | .ok (some (.file ..)) => .error .notDirectory
    | .ok (some .directory) => .ok (part :: place)
  else .ok (follow place part)

/-- Follows the parts of a path from a directory on. Only slashes may follow the last name. -/
def walk (folder : Folder) (place : Place) : List String → Except FileError Target
  | [] => .ok .directory
  | part :: rest =>
    if isName part && rest.all (· == "") then .ok (.inside (part :: place) (!rest.isEmpty))
    else
      match folder.enter place part with
      | .error error => .error error
      | .ok place => folder.walk place rest

/-- Where a path leads: from the folder, or from the root if it starts with a slash. -/
def locate (folder : Folder) (path : String) : Except FileError Target :=
  let reach := if isRooted path.toList then 0 else folder.reach
  if path.toList.contains (Char.ofNat 0) then .error .nulInName
  else if pathLimit < reach + size path then .error .nameTooLong
  else folder.walk (if isRooted path.toList then [] else folder.home) (parts path.toList)

/-! ## The folder itself -/

/-- The bytes of the directory that a folder's own path starts in. -/
def baseReach : Nat := 16

/-- An empty folder. Its path starts two directories below the root, whose names are not known. -/
def empty (path : String) : Folder where
  home := (parts path.toList).foldl follow (if isRooted path.toList then [] else ["", ""])
  reach := (if isRooted path.toList then 0 else baseReach) + size path +
    (if path.toList.getLast?.all (· == '/') then 0 else 1)
  entries := []
  fresh := 0

/-- Makes the folder of a path, unless a regular file has taken its place. -/
def make (path : String) (isTaken : Bool) : Except FileError Folder :=
  if isTaken then .error .alreadyExists
  else if path.toList.contains (Char.ofNat 0) then .error .nulInName
  else if (parts path.toList).any (nameLimit < size ·) || pathLimit < (empty path).reach then
    .error .nameTooLong
  else .ok (empty path)

/-- The entries of the folder itself. -/
def listing (folder : Folder) : List (String × Entry) :=
  folder.entries.filterMap fun (place, entry) =>
    match place with
    | [] => none
    | name :: outer => if outer = folder.home then some (name, entry) else none

/-- The files of the folder itself. -/
def files (folder : Folder) : List (String × List UInt8) :=
  folder.listing.filterMap fun (name, entry) =>
    match entry with
    | .file _ bytes => some (name, bytes)
    | .directory => none

/-! ## Files and directories -/

/-- A new entry at a place where nothing stands. -/
def add (folder : Folder) (place : Place) (entry : Entry) : Folder :=
  { folder with entries := folder.entries ++ [(place, entry)], fresh := folder.fresh + 1 }

/-- The file to write at a path, made if need be: its place, identity and bytes. -/
def openAt (folder : Folder) (path : String) :
    Except FileError (Place × Nat × List UInt8 × Folder) :=
  match folder.locate path with
  | .error error => .error error
  | .ok .directory | .ok (.inside _ true) => .error .isDirectory
  | .ok (.inside place false) =>
    match folder.look place with
    | .error error => .error error
    | .ok (some .directory) => .error .isDirectory
    | .ok (some (.file identity bytes)) => .ok (place, identity, bytes, folder)
    | .ok none => .ok (place, folder.fresh, [], folder.add place (.file folder.fresh []))

/-- Opens a file to append to, and makes it if need be: its identity and its size. -/
def openToAppend (folder : Folder) (path : String) : Except FileError (Nat × Nat × Folder) :=
  match folder.openAt path with
  | .error error => .error error
  | .ok (_, identity, bytes, folder) => .ok (identity, bytes.length, folder)

def appendTo (identity : Nat) (bytes : List UInt8) : Entry → Entry
  | .file other old => if other = identity then .file other (old ++ bytes) else .file other old
  | .directory => .directory

/-- Appends to the file of an identity, wherever it stands. -/
def append (folder : Folder) (identity : Nat) (bytes : List UInt8) : Folder :=
  { folder with
    entries := folder.entries.map fun (place, entry) => (place, appendTo identity bytes entry) }

/-- Gives a file new content, and makes it if need be. -/
def put (folder : Folder) (path : String) (bytes : List UInt8) : Except FileError Folder :=
  match folder.openAt path with
  | .error error => .error error
  | .ok (place, identity, _, folder) =>
    let entries := folder.entries.map fun (other, entry) =>
      (other, if other = place then .file identity bytes else entry)
    .ok { folder with entries := entries }

def makeDirectory (folder : Folder) (path : String) : Except FileError Folder :=
  match folder.locate path with
  | .error error => .error error
  | .ok .directory => .error .alreadyExists
  | .ok (.inside place _) =>
    match folder.look place with
    | .error error => .error error
    | .ok (some _) => .error .alreadyExists
    | .ok none => .ok (folder.add place .directory)

/-- Removes a file; directories stay. -/
def remove (folder : Folder) (path : String) : Except FileError Folder :=
  match folder.locate path with
  | .error error => .error error
  | .ok .directory => .error .isDirectory
  | .ok (.inside place endsInSlash) =>
    match folder.look place with
    | .error error => .error error
    | .ok none => .error .missing
    | .ok (some .directory) => .error .isDirectory
    | .ok (some (.file ..)) =>
      if endsInSlash then .error .notDirectory
      else .ok { folder with entries := folder.entries.filter fun (other, _) => other != place }

end Folder

end Gatehouse
