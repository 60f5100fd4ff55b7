import Gatehouse.Http.Header
import Gatehouse.Http.Status
import Gatehouse.Json.Printer
import Gatehouse.Span
import Gatehouse.Text.Utf8

/-!
# Requests and their outcomes

A transport makes one round trip. Every response is an outcome, whatever its status; only a trip
without a response is an error.
-/
namespace Gatehouse

structure Request where
  method : String
  url : String
  headers : List Header
  params : List Header
  body : Option Json
  timeout : Span

/-- A response as it came over the wire. -/
structure RawResponse where
  status : Nat
  statusText : String
  headers : List (String × RawHeader)
  body : List UInt8

/-- A response with a JSON body and the phrase of its status. -/
def RawResponse.ofJson (status : Nat) (body : Json) : RawResponse where
  status := status
  statusText := Status.phrase status
  headers := [("content-type", .text "application/json")]
  body := Utf8.encode body.print

inductive TransportError
  | network (message : String) (source : Option String)
  | timeout (limit : Span)
  | other (message : String)

namespace TransportError

def message : TransportError → String
  | .network message _ => message
  | .timeout limit => s!"timeout of {limit.millis}ms exceeded"
  | .other message => message

def isNetwork : TransportError → Bool
  | .network .. => true
  | .timeout _ => true
  | .other _ => false

def source : TransportError → Option String
  | .network _ source => source
  | .timeout _ => none
  | .other _ => none

end TransportError

abbrev Outcome := Except TransportError RawResponse

end Gatehouse
