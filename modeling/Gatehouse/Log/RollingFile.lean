import Gatehouse.Calendar.Date
import Gatehouse.Log.Folder
import Gatehouse.Log.Line

/-!
# Rolling log files

Records go to one file for each day, as lines of JSON. A line that would take a file past its
largest size goes to the next file of the day, unless the file is empty. The day never goes back:
a late record stays in the newer file. Whenever a file is opened, the files of days before the
retention window are removed. A failed opening leaves the current file as it was.
-/
namespace Gatehouse.RollingFile

structure Policy where
  stem : String
  app : String
  maxSize : Nat
  maxAgeDays : Nat
  maxLevel : Level

/-- The policy of a stem with the usual limits: 20 MiB and two weeks. -/
def Policy.ofStem (stem : String) : Policy where
  stem := stem
  app := stem
  maxSize := 20 * 1024 * 1024
  maxAgeDays := 14
  maxLevel := .verbose

/-- The file that lines go to, with the size it is known to have. -/
structure OpenFile where
  date : Date
  index : Nat
  size : Nat
  identity : Nat

/-! ## File names -/

def dotLog : List Char := ['.', 'l', 'o', 'g']

/-- The name of the `index`-th file of a day; the first one has no index. -/
def fileNameChars (stem : List Char) (date : Date) (index : Nat) : List Char :=
  stem ++ '-' :: date.print ++ (if index = 0 then [] else '.' :: Nat.toDigits 10 index) ++ dotLog

def fileName (policy : Policy) (date : Date) (index : Nat) : String :=
  String.ofList (fileNameChars policy.stem.toList date index)

/-- A path without the leading steps that stay in the directory they start from. -/
def dropIdleSteps : List Char → List Char
  | '.' :: '/' :: rest | '/' :: rest => dropIdleSteps rest
  | path => path

/-- The path of a file from its folder. One that starts at the root stays as it is. -/
def filePath (policy : Policy) (date : Date) (index : Nat) : String :=
  let name := fileNameChars policy.stem.toList date index
  String.ofList (if Folder.isRooted name then name else dropIdleSteps name)

/-- `text` without `start` at its start. -/
def dropStart? (start text : List Char) : Option (List Char) :=
  if start.isPrefixOf text then some (text.drop start.length) else none

/-- `text` without `ending` at its end. -/
def dropEnding? (ending text : List Char) : Option (List Char) :=
  if ending.isSuffixOf text then some (text.take (text.length - ending.length)) else none

/-- The date that a file name of the stem holds. Anything may follow its first point. -/
def fileDate? (stem name : List Char) : Option Date := do
  let rest ← dropStart? stem name
  let rest ← dropStart? ['-'] rest
  let body ← dropEnding? dotLog rest
  Date.parse? (body.takeWhile (· != '.'))

/-! ## Opening and retention -/

/-- Whether retention removes the file of a name once a file of `today` is opened. -/
def isExpired (policy : Policy) (today : Date) (name : String) : Bool :=
  match today.minusDays policy.maxAgeDays, fileDate? policy.stem.toList name.toList with
  | some cutoff, some date => decide (date < cutoff)
  | _, _ => false

/-- Whether retention keeps what stands at a place: only files of the folder itself expire. -/
def isKept (policy : Policy) (today : Date) (home : Place) : Place × Entry → Bool
  | (name :: outer, .file ..) => outer != home || !isExpired policy today name
  | _ => true

def prune (policy : Policy) (today : Date) (folder : Folder) : Folder :=
  { folder with entries := folder.entries.filter (isKept policy today folder.home) }

/-- Opens the `index`-th file of a day, and prunes once that has succeeded. -/
def openFile (policy : Policy) (date : Date) (index : Nat) (folder : Folder) :
    Except FileError OpenFile × Folder :=
  match folder.openToAppend (fileName policy date index) with
  | .error error => (.error error, folder)
  | .ok (identity, size, folder) => (.ok ⟨date, index, size, identity⟩, prune policy date folder)

/-- Whether a line of that length no longer fits a file. -/
def isFull (policy : Policy) (size length : Nat) : Bool :=
  decide (0 < size) && decide (policy.maxSize < size + length)

/-- From an opened file on, the first one of the day with room. -/
def advance (policy : Policy) (length : Nat) :
    Nat → OpenFile → Folder → Except FileError OpenFile × Folder
  | 0, file, folder => (.ok file, folder)
  | budget + 1, file, folder =>
    if isFull policy file.size length then
      match openFile policy file.date (file.index + 1) folder with
      | (.error error, folder) => (.error error, folder)
      | (.ok next, folder) => advance policy length budget next folder
    else (.ok file, folder)

/-- The first file with room from `index` on. The folder has one file too few to be full. -/
def openWithRoom (policy : Policy) (date : Date) (index length : Nat) (folder : Folder) :
    Except FileError OpenFile × Folder :=
  match openFile policy date index folder with
  | (.error error, folder) => (.error error, folder)
  | (.ok file, opened) => advance policy length (folder.entries.length + 1) file opened

/-! ## Writing -/

/-- The bytes of a record's line. -/
def lineBytes (policy : Policy) (record : Record) : List UInt8 :=
  Utf8.encode (record.jsonLine policy.app ++ ['\n'])

/-- The day a record is filed under. -/
def filingDate (current : Option OpenFile) (record : Record) : Date :=
  match current with
  | none => record.time.date
  | some file => file.date.later record.time.date

/-- The index to open from, unless the current file takes the line. -/
def nextIndex? (policy : Policy) (current : Option OpenFile) (date : Date) (length : Nat) :
    Option Nat :=
  match current with
  | none => some 0
  | some file =>
    if file.date < date then some 0
    else if isFull policy file.size length then some (file.index + 1)
    else none

/-- Appends a line to the current file. -/
def appendLine (file : OpenFile) (line : List UInt8) (folder : Folder) : OpenFile × Folder :=
  ({ file with size := file.size + line.length }, folder.append file.identity line)

/-- Writes a record: what became of it, the current file and the folder after it. -/
def write (policy : Policy) (record : Record) (current : Option OpenFile) (folder : Folder) :
    Except FileError Unit × Option OpenFile × Folder :=
  if record.level.isEnabled policy.maxLevel then
    let line := lineBytes policy record
    let date := filingDate current record
    match nextIndex? policy current date line.length, current with
    -- Does not come up: without a current file there is an index to open.
    | none, none => (.ok (), none, folder)
    | none, some file =>
      let (file, folder) := appendLine file line folder
      (.ok (), some file, folder)
    | some index, current =>
      match openWithRoom policy date index line.length folder with
      -- The folder may have been pruned by then, but the current file stays the current one.
      | (.error error, folder) => (.error error, current, folder)
      | (.ok file, folder) =>
        let (file, folder) := appendLine file line folder
        (.ok (), some file, folder)
  else (.ok (), current, folder)

end Gatehouse.RollingFile
