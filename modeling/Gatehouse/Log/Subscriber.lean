import Gatehouse.Log.Filter
import Gatehouse.Log.Settings
import Gatehouse.Text.Quoted

/-!
# Subscribers

A subscriber prints the events that pass its filter, in text or as JSON. There is one for a whole
process, so installing a second one fails.
-/
namespace Gatehouse

structure SubscriberSettings where
  filter : String
  asJson : Bool

namespace SubscriberSettings

def usual : SubscriberSettings := ⟨"info", false⟩

/-- The settings that go with those of a logger. -/
def ofLog (settings : LogSettings) : SubscriberSettings :=
  ⟨settings.level.directive, settings.format == .json⟩

def withFilter (settings : SubscriberSettings) (filter : String) : SubscriberSettings :=
  { settings with filter := filter }

def withJson (settings : SubscriberSettings) : SubscriberSettings :=
  { settings with asJson := true }

end SubscriberSettings

structure Subscriber where
  filter : EventFilter
  asJson : Bool

namespace Subscriber

/-- A subscriber with the settings' filter, unless the environment has a filter without fault. -/
def ofSettings (settings : SubscriberSettings) (environment : Option String) : Subscriber where
  filter := (environment.bind EventFilter.parse?).getD (.parseLenient settings.filter)
  asJson := settings.asJson

/-- Whether a subscriber is installed in the process. -/
abbrev Installed := Option Subscriber

def alreadySet : String := "a global default trace dispatcher has already been set"

/-- Installs a subscriber where none is. -/
def install (installed : Installed) (subscriber : Subscriber) : Except String Installed :=
  match installed with
  | none => .ok (some subscriber)
  | some _ => .error alreadySet

/-- Control characters that terminals act on are written by their codes in messages. -/
def shielded (c : Char) : List Char :=
  if c.toNat = 0x07 ∨ c.toNat = 0x08 ∨ c.toNat = 0x0C ∨ c.toNat = 0x1B ∨ c.toNat = 0x7F then
    ['\\', 'x', Hex.digit (c.toNat / 16), Hex.digit (c.toNat % 16)]
  else if 0x80 ≤ c.toNat ∧ c.toNat < 0xA0 then
    ['\\', 'u', Char.ofNat 0x7B] ++ [Hex.digit (c.toNat / 16), Hex.digit (c.toNat % 16), '}']
  else [c]

/-- The severity in five columns. -/
def column (severity : Severity) : String :=
  String.ofList (List.replicate (5 - severity.name.length) ' ') ++ severity.name

/-- The text of an event behind its time. -/
def eventText (event : Event) : String :=
  column event.severity ++ " " ++ Event.origin ++ ": "
  ++ String.ofList (event.message.toList.flatMap shielded)
  ++ " context=" ++ Text.quoted event.context ++ " request_id=" ++ Text.quoted event.requestId
  ++ (if event.isHttp then " http=true" else "")
  ++ (match event.trace with
      | some trace => " trace=" ++ Text.quoted trace
      | none => "")
  ++ " metadata=" ++ event.metadata

/-- The lines of a text without their ends. -/
def physicalLines (text : List Char) : List (List Char) :=
  (text.splitOn '\n').map fun line => if line.getLast? = some '\r' then line.dropLast else line

/-- A line behind its first blank, or a line without one. -/
def behindBlank (line : List Char) : List Char :=
  match line.dropWhile (· != ' ') with
  | [] => line
  | _ :: rest => rest

/-- The lines of an event, each without its first word, which is the time on the first of them. -/
def textLines (event : Event) : List String :=
  match physicalLines (eventText event).toList with
  | [] => []
  | first :: rest => (first :: rest.map behindBlank).map String.ofList

/-- The JSON object of an event, without its time. -/
def jsonLine (event : Event) : Json :=
  Json.ofPairs [("level", .string event.severity.name), ("fields", Json.ofPairs event.fields),
    ("target", .string Event.origin)]

/-- The lines that a subscriber prints of an event: none unless it lets the event pass. -/
def lines (subscriber : Subscriber) (event : Event) : List Json :=
  if subscriber.filter.passes event then
    if subscriber.asJson then [jsonLine event] else (textLines event).map .string
  else []

end Subscriber

end Gatehouse
