import Gatehouse.Json.Printer
import Gatehouse.Log.Record

/-!
# Records as diagnostic events

The form in which records reach an event subscriber. Events know five levels, so an HTTP record
is an info event with a mark; a trace goes along with errors only.
-/
namespace Gatehouse

inductive Severity
  | error
  | warn
  | info
  | debug
  | trace
deriving DecidableEq

namespace Severity

/-- Zero for off, then from the gravest severity to the most detailed. -/
def verbosity : Severity → Nat
  | .error => 1
  | .warn => 2
  | .info => 3
  | .debug => 4
  | .trace => 5

def name : Severity → String
  | .error => "ERROR"
  | .warn => "WARN"
  | .info => "INFO"
  | .debug => "DEBUG"
  | .trace => "TRACE"

def ofLevel : Level → Severity
  | .error => .error
  | .warn => .warn
  | .info => .info
  | .http => .info
  | .debug => .debug
  | .verbose => .trace

end Severity

structure Event where
  severity : Severity
  message : String
  context : String
  requestId : String
  isHttp : Bool
  trace : Option String
  metadata : String

namespace Event

/-- Where the events of log records come from; filters go by it. -/
def origin : String := "gateway_common::logging::sink"

def ofRecord (record : Record) : Event where
  severity := .ofLevel record.level
  message := record.message
  context := record.context.getD "-"
  requestId := record.requestId.getD "-"
  isHttp := record.level == .http
  trace := if record.level = .error then record.trace else none
  metadata := Json.text (.object record.metadata)

/-- The fields of an event, without the order of a line. -/
def fields (event : Event) : List (String × Json) :=
  [("message", .string event.message), ("context", .string event.context),
    ("request_id", .string event.requestId)]
  ++ (if event.isHttp then [("http", .bool true)] else [])
  ++ (match event.trace with
      | some trace => [("trace", .string trace)]
      | none => [])
  ++ [("metadata", .string event.metadata)]

end Event

end Gatehouse
