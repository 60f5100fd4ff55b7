import Gatehouse.Url.Escape
import Gatehouse.Url.Scheme

/-!
# Paths

The segments of a path are walked: a point stays where it is and two points go a step up, also when
they are escaped. No step leads above the root or out of a drive.
-/
namespace Gatehouse.Url

/-- A segment with escaped points as points. -/
def pointed : List Char → List Char
  | '%' :: '2' :: x :: rest =>
    if x = 'e' ∨ x = 'E' then '.' :: pointed rest else '%' :: '2' :: pointed (x :: rest)
  | c :: rest => c :: pointed rest
  | [] => []

/-- Whether a segment is a letter and a mark that names a drive. -/
def isDrive (segment : List Char) : Bool :=
  match segment with
  | [letter, mark] => letter.isAlpha && (mark == ':' || mark == '|')
  | _ => false

/-- Whether no step leads out of a segment. -/
def holdsFast (segment : List Char) : Bool := isDrive (segment.takeWhile (· != '\\'))

/-- A segment in the form in which it is sent. The first segment of a file may be a drive. -/
def sentSegment (kind : Kind) (isFirst : Bool) (segment : List Char) : List Char :=
  match segment with
  | [letter, _] =>
    if kind = .file ∧ isFirst ∧ isDrive segment then [letter, ':']
    else escape isMarkedInPath segment
  | _ => escape isMarkedInPath segment

/-- The segments after a step up. -/
def stepUp (done : List (List Char)) : List (List Char) :=
  if done.getLast?.any holdsFast then done else done.dropLast

/-- The segments after the steps of some more; a step at the end leaves an empty segment. -/
def walk (kind : Kind) : List (List Char) → List (List Char) → List (List Char)
  | done, [] => done
  | done, segment :: rest =>
    let trail : List (List Char) := if rest.isEmpty then [[]] else []
    if pointed segment = ['.', '.'] then walk kind (stepUp done ++ trail) rest
    else if pointed segment = ['.'] then walk kind (done ++ trail) rest
    else walk kind (done ++ [sentSegment kind done.isEmpty segment]) rest

/-- The segments of a path behind its first slash. -/
def segments (kind : Kind) (text : List Char) : List (List Char) :=
  walk kind [] ((text.map fun c => if isSlash kind c then '/' else c).splitOn '/')

/-- A path with these segments. -/
def slashed (segments : List (List Char)) : List Char := segments.flatMap ('/' :: ·)

/-- What follows a slash, if a text begins with one. -/
def behindSlash? (kind : Kind) (text : List Char) : Option (List Char) :=
  match text with
  | c :: rest => if isSlash kind c then some rest else none
  | [] => none

/-- The path behind a host. Only schemes of no known kind have empty paths. -/
def pathBehindHost (kind : Kind) (text : List Char) : List (List Char) :=
  match behindSlash? kind text with
  | some rest => segments kind rest
  | none => if kind = .plain ∧ text.isEmpty then [] else segments kind text

/-- A file's path has no empty segments at its beginning. -/
def filePath (segments : List (List Char)) : List (List Char) :=
  match segments.dropWhile List.isEmpty with
  | [] => [[]]
  | segments => segments

end Gatehouse.Url
