import Gatehouse.Text.Alphanumeric
import Gatehouse.Text.Blank

/-!
# Environment files

Assignments, one a line, that add to an environment. A variable that is already there keeps its
value. Quotes may take a value over several lines; a dollar sign puts a variable's value in.
Reading ends at the first line that is no assignment, and what was read before it stays.
-/
namespace Gatehouse.Dotenv

/-- Variables and their values. -/
abbrev Environment := List (String × String)

/-! ## Lines -/

/-- Where the reader of lines stands between quotes, escapes and comments. -/
inductive LineState
  | complete
  | escape
  | strong
  | strongEscape
  | weak
  | weakEscape
  | blank
  | comment
deriving DecidableEq

def LineState.unquoted (c : Char) : LineState :=
  if c = '\\' then .escape else if c = '"' then .weak else if c = '\'' then .strong else .complete

def LineState.next (c : Char) : LineState → LineState
  | .blank => if c = '#' then .comment else .unquoted c
  | .escape => .complete
  | .complete => if Text.isBlank c && c != '\n' && c != '\r' then .blank else .unquoted c
  | .weak => if c = '\\' then .weakEscape else if c = '"' then .complete else .weak
  | .weakEscape => .weak
  | .strong => if c = '\\' then .strongEscape else if c = '\'' then .complete else .strong
  | .strongEscape => .strong
  | .comment => .comment

/-- The state after a line, and the part of the line in front of a comment. -/
def scanLine (state : LineState) : List Char → LineState × List Char
  | [] => (state, [])
  | c :: rest =>
    let next := state.next c
    if next = .comment then (.comment, [])
    else
      let (last, kept) := scanLine next rest
      (last, c :: kept)

/-- A text cut behind its line ends. -/
def cutLines : List Char → List (List Char)
  | [] => []
  | c :: rest =>
    if c = '\n' then [c] :: cutLines rest
    else
      match cutLines rest with
      | [] => [[c]]
      | line :: lines => (c :: line) :: lines

/-- A line without its line end. -/
def dropLineEnd (line : List Char) : List Char :=
  match line.reverse with
  | '\n' :: '\r' :: rest => rest.reverse
  | '\n' :: rest => rest.reverse
  | _ => line

def isComment (line : List Char) : Bool := (Text.trimStart line).head? == some '#'

/-- The lines of a file, those with open quotes joined; `none` at the end for one left open. -/
def joinLines (state : LineState) (begun : List Char) : List (List Char) → List (Option (List Char))
  | [] => if state = .complete then [] else [none]
  | line :: rest =>
    let whole := begun ++ line
    if isComment whole then some [] :: joinLines .complete [] rest
    else
      match scanLine state line with
      | (.complete, _) => some (dropLineEnd whole) :: joinLines .complete [] rest
      | (.comment, kept) => some (begun ++ kept) :: joinLines .complete [] rest
      | (state, _) => joinLines state whole rest

/-! ## Values -/

/-- Where the reader of a value stands. -/
inductive ValueState
  | plain
  | strong
  | weak
  | escape (isWeak : Bool)
  | bareName (isWeak : Bool) (name : List Char)
  | bracedName (isWeak : Bool) (name : List Char)
  | ending

/-- The value that a name stands for: the environment's, else that of an earlier line. -/
def substitute (environment earlier : Environment) (name : List Char) : List Char :=
  let key := String.ofList name
  match environment.lookup key with
  | some value => value.toList
  | none => ((earlier.lookup key).getD "").toList

def ValueState.quoted (isWeak : Bool) : ValueState := if isWeak then .weak else .plain

def escapedValue? (c : Char) : Option Char :=
  if c = 'n' then some '\n'
  else if c = '\\' ∨ c = '\'' ∨ c = '"' ∨ c = '$' ∨ c = ' ' then some c
  else none

/-- Reads a value; `done` holds what it is so far, last first. -/
def readValue (lookup : List Char → List Char) :
    ValueState → List Char → List Char → Option (List Char)
  | .plain, done, [] => some done.reverse
  | .ending, done, [] => some done.reverse
  | .escape false, done, [] => some done.reverse
  | .bareName false name, done, [] => some (done.reverse ++ lookup name)
  | _, _, [] => none
  | .ending, done, c :: rest =>
    if c = ' ' ∨ c = '\t' then readValue lookup .ending done rest
    else if c = '#' then some done.reverse
    else none
  | .escape isWeak, done, c :: rest =>
    match escapedValue? c with
    | some value => readValue lookup (.quoted isWeak) (value :: done) rest
    | none => none
  | .strong, done, c :: rest =>
    if c = '\'' then readValue lookup .plain done rest
    else readValue lookup .strong (c :: done) rest
  | .bareName isWeak name, done, c :: rest =>
    if Text.isAlphanumeric c then readValue lookup (.bareName isWeak (name ++ [c])) done rest
    else if c = Char.ofNat 0x7B ∧ name = [] then readValue lookup (.bracedName isWeak []) done rest
    else
      let done := (lookup name).reverse ++ done
      if c = '$' then readValue lookup (.bareName isWeak []) done rest
      else readValue lookup (.quoted isWeak) (c :: done) rest
  | .bracedName isWeak name, done, c :: rest =>
    if c = Char.ofNat 0x7D then
      readValue lookup (.quoted isWeak) ((lookup name).reverse ++ done) rest
    else readValue lookup (.bracedName isWeak (name ++ [c])) done rest
  | .weak, done, c :: rest =>
    if c = '$' then readValue lookup (.bareName true []) done rest
    else if c = '"' then readValue lookup .plain done rest
    else if c = '\\' then readValue lookup (.escape true) done rest
    else readValue lookup .weak (c :: done) rest
  | .plain, done, c :: rest =>
    if c = '$' then readValue lookup (.bareName false []) done rest
    else if c = '\'' then readValue lookup .strong done rest
    else if c = '"' then readValue lookup .weak done rest
    else if c = '\\' then readValue lookup (.escape false) done rest
    else if c = ' ' ∨ c = '\t' then readValue lookup .ending done rest
    else readValue lookup .plain (c :: done) rest

/-! ## Assignments -/

def isKeyStart (c : Char) : Bool := c.isAlpha || c == '_'

def isKeyChar (c : Char) : Bool := c.isAlphanum || c == '_' || c == '.'

/-- A key and the text behind it and the blanks after it. -/
def takeKey (text : List Char) : Option (List Char × List Char) :=
  match text with
  | [] => none
  | c :: _ =>
    if isKeyStart c then
      some (text.takeWhile isKeyChar, Text.trimStart (text.dropWhile isKeyChar))
    else none

def takeEqual (text : List Char) : Option (List Char) :=
  match text with
  | '=' :: rest => some rest
  | _ => none

/-- A key up to its equals sign. The word `export` in front of a key is passed over; in front of
an equals sign it is the key. -/
def takeTarget (text : List Char) : Option (List Char × List Char) := do
  let (key, rest) ← takeKey text
  match takeEqual rest with
  | some rest => some (key, rest)
  | none =>
    if key = "export".toList then
      let (key, rest) ← takeKey rest
      let rest ← takeEqual rest
      some (key, rest)
    else none

/-- What a line says. -/
inductive Line
  | nothing
  | assign (key : String) (value : Option (List Char))
  | malformed

/-- A line with a key and no value sets the empty text, and leaves nothing to put in for it. -/
def readLine (lookup : List Char → List Char) (line : List Char) : Line :=
  let text := Text.trimStart (Text.trimEnd line)
  if text.isEmpty ∨ text.head? = some '#' then .nothing
  else
    match takeTarget text with
    | none => .malformed
    | some (key, rest) =>
      match Text.trimStart rest with
      | [] => .assign (String.ofList key) none
      | '#' :: _ => .assign (String.ofList key) none
      | value =>
        match readValue lookup .plain [] value with
        | some value => .assign (String.ofList key) (some value)
        | none => .malformed

/-- Adds a variable unless it is there. -/
def define (environment : Environment) (key value : String) : Environment :=
  match environment.lookup key with
  | some _ => environment
  | none => environment ++ [(key, value)]

/-- Adds the assignments of lines, until one is malformed. -/
def loadLines (environment earlier : Environment) : List (Option (List Char)) → Environment
  | [] => environment
  | none :: _ => environment
  | some line :: rest =>
    match readLine (substitute environment earlier) line with
    | .nothing => loadLines environment earlier rest
    | .malformed => environment
    | .assign key value =>
      let text := String.ofList (value.getD [])
      loadLines (define environment key text) ((key, text) :: earlier) rest

/-- A file without the mark of its encoding. -/
def dropMark (text : List Char) : List Char :=
  match text with
  | '\uFEFF' :: rest => rest
  | text => text

def load (environment : Environment) (file : String) : Environment :=
  loadLines environment [] (joinLines .complete [] (cutLines (dropMark file.toList)))

end Gatehouse.Dotenv
