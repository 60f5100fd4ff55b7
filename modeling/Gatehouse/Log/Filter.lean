import Gatehouse.Log.Event
import Gatehouse.Log.Pattern
import Gatehouse.Number.Unsigned
import Gatehouse.Text.Alphanumeric
import Gatehouse.Text.AsciiCase
import Gatehouse.Text.Blank

/-!
# Event filters

A filter is a list of directives with commas between them. A directive sets the most detailed
severity that passes for the origins that start with its target, or for all of them. Of several
directives that an event falls under, the most specific one decides; under none, the event is
dropped.
-/
namespace Gatehouse

structure Directive where
  target : Option (List Char)
  /-- Names of fields that an event has to have. -/
  fields : List (List Char)
  /-- Whether only events inside some spans are meant. -/
  inSpan : Bool
  /-- The most detailed severity that passes; zero for none at all. -/
  verbosity : Nat
deriving DecidableEq

namespace Directive

def verbosityOfName? (name : String) : Option Nat :=
  match name with
  | "off" => some 0
  | "error" => some 1
  | "warn" => some 2
  | "info" => some 3
  | "debug" => some 4
  | "trace" => some 5
  | _ => none

/-- A severity by its name in any letter case, or by its number. -/
def verbosity? (text : List Char) : Option Nat :=
  match (Unsigned.parse 0xFFFFFFFFFFFFFFFF text).toOption with
  | some number => if number ≤ 5 then some number else none
  | none => verbosityOfName? (Text.lowered (String.ofList text))

/-- A directive while it is read. Blanks around it are not read, but they count in the pieces that
are cut out of it: a piece from one place to another is cut from the text with its blanks. -/
structure Draft where
  text : List Char

namespace Draft

def piece (draft : Draft) (first last : Nat) : List Char :=
  (draft.text.drop first).take (last - first)

/-- What stands behind a target at a place: nothing, or an equals sign and a severity. Without a
severity every event passes. -/
def tail? (draft : Draft) (place : Nat) (rest : List Char) : Option Nat :=
  match rest with
  | [] => some 5
  | '=' :: _ =>
    match draft.text.drop (place + 1) with
    | [] => some 5
    | level => verbosity? level
  | _ => none

/-- The name of a field and whether it has to have a value of some pattern. -/
def field? (text : List Char) : Option (List Char × Bool) :=
  match text.splitOn '=' with
  | [] => none
  | [name] => if name.isEmpty then none else some (name, false)
  | name :: value :: _ => if Pattern.isValue value then some (name, true) else none

/-- A span behind its opening bracket at a place. A field with a value is met inside spans only. -/
def span? (draft : Draft) (target : Option (List Char)) (place : Nat) (rest : List Char) :
    Option Directive :=
  match rest.span fun c => c != ']' && c != Char.ofNat 0x7B with
  | (name, ']' :: rest) =>
    (draft.tail? (place + name.length + 1) rest).map fun level => ⟨target, [], true, level⟩
  | (name, _ :: rest) =>
    let first := place + name.length + 1
    match rest.span (· != Char.ofNat 0x7D) with
    | (inside, _ :: ']' :: rest) => do
      let last := first + inside.length
      let (field, hasValue) ← field? (draft.piece first last)
      let level ← draft.tail? (last + 2) rest
      return ⟨target, [field], !name.isEmpty || hasValue, level⟩
    | _ => none
  | (_, []) => none

end Draft

def isTargetStart (c : Char) : Bool := c == '-' || c == ':' || c == '_' || Text.isAlphanumeric c

/-- A word alone is a severity if it names one, else a target for which every event passes. -/
def ofWord (word : List Char) : Directive :=
  match verbosity? word with
  | some level => ⟨none, [], false, level⟩
  | none => ⟨some word, [], false, 5⟩

def parse? (text : List Char) : Option Directive :=
  let draft : Draft := ⟨text⟩
  match Text.trim text with
  | [] => none
  | '[' :: rest => draft.span? none 1 rest
  | c :: rest =>
    if isTargetStart c then
      match (c :: rest).span fun c => c != '=' && c != '[' with
      | (_, []) => some (ofWord text)
      | (word, '[' :: rest) =>
        draft.span? (some (draft.piece 0 word.length)) (word.length + 1) rest
      | (word, rest) =>
        (draft.tail? word.length rest).map fun level =>
          ⟨some (draft.piece 0 word.length), [], false, level⟩
    else none

/-- Whether a directive is about an event of an origin and with some fields. -/
def covers (directive : Directive) (origin : List Char) (fields : List (List Char)) : Bool :=
  !directive.inSpan && directive.fields.all fields.contains
    && match directive.target with
      | some target => target.isPrefixOf origin
      | none => true

/-- Whether a directive goes before another where both cover an event: a longer target first, then
more fields, then the fields that come later in the alphabet. -/
def isMoreSpecific (left right : Directive) : Bool :=
  let length (directive : Directive) : Nat :=
    match directive.target with
    | some target => target.length + 1
    | none => 0
  decide (length right < length left)
    || (length left == length right
      && (decide (right.fields.length < left.fields.length)
        || (left.fields.length == right.fields.length
          && decide (right.fields.map String.ofList < left.fields.map String.ofList))))

end Directive

structure EventFilter where
  directives : List Directive

namespace EventFilter

def parts (text : String) : List (List Char) :=
  (text.toList.splitOn ',').filter fun part => !part.isEmpty

/-- The filter of a text without any bad directive. -/
def parse? (text : String) : Option EventFilter :=
  ((parts text).mapM Directive.parse?).map EventFilter.mk

/-- The filter of a text; bad directives are passed over. Without a good one, errors pass. -/
def parseLenient (text : String) : EventFilter :=
  match (parts text).filterMap Directive.parse? with
  | [] => ⟨[⟨none, [], false, 1⟩]⟩
  | directives => ⟨directives⟩

/-- The more specific of two directives, the later one if neither is. -/
def preferred (best : Option Directive) (next : Directive) : Option Directive :=
  match best with
  | none => some next
  | some best => if best.isMoreSpecific next then some best else some next

/-- The directive that decides on an event. -/
def deciding? (filter : EventFilter) (origin : List Char) (fields : List (List Char)) :
    Option Directive :=
  (filter.directives.filter fun directive => directive.covers origin fields).foldl preferred none

/-- The names of the fields that all events of an event's kind have. -/
def fieldNames (event : Event) : List (List Char) :=
  ["message", "context", "request_id", "metadata"].map String.toList
  ++ (if event.isHttp then ["http".toList] else [])
  ++ (if event.severity = .error then ["trace".toList] else [])

def passes (filter : EventFilter) (event : Event) : Bool :=
  match filter.deciding? Event.origin.toList (fieldNames event) with
  | some directive => decide (event.severity.verbosity ≤ directive.verbosity)
  | none => false

end EventFilter

end Gatehouse
