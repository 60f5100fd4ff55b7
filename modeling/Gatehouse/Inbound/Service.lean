import Gatehouse.Http.Exchange
import Gatehouse.Http.HeaderValue
import Gatehouse.Inbound.Uri
import Gatehouse.Text.Blank

/-!
# Inbound requests under one id

Every request is served under one request id: the caller's own when it is usable, a fresh one
otherwise. The handler finds the id in the request's headers and around itself, the caller in the
response's headers, and the log record of the completed request bears it as well.
-/
namespace Gatehouse.Inbound

/-- Headers as they came: names in lower case, values as bytes. -/
abbrev HeaderMap := List (String × List UInt8)

namespace HeaderMap

def first? (headers : HeaderMap) (name : String) : Option (List UInt8) := headers.lookup name

/-- Gives a name one value; all its other values go. -/
def replace (headers : HeaderMap) (name : String) (value : List UInt8) : HeaderMap :=
  headers.filter (fun header => header.1 != name) ++ [(name, value)]

end HeaderMap

structure Inquiry where
  method : String
  path : String
  headers : HeaderMap

structure Reply (Body : Type) where
  status : Nat
  headers : HeaderMap
  body : Body

/-- What serves a request under an ambient request id. -/
abbrev Handler (Failure Body : Type) :=
  Option String → Inquiry → Exchange (Except Failure (Reply Body))

/-- A longer id is not taken over. -/
def longestId : Nat := 128

/-- The id that a caller sent, if it is usable: the first value, without the blanks around it. -/
def sentId? (headers : HeaderMap) : Option String := do
  let value ← headers.first? Headers.requestId
  let id := Text.trim (← HeaderValue.visibleText? value)
  if !id.isEmpty && decide ((Utf8.encode id).length ≤ longestId) then
    some (String.ofList id)
  else none

/-- The headers with the request id, if it can stand in one. -/
def stamp (id : String) (headers : HeaderMap) : HeaderMap :=
  match HeaderValue.ofText? id with
  | some value => headers.replace Headers.requestId value
  | none => headers

/-- The label of completion records. -/
def label : String := "HTTP"

def completionNote (request : Inquiry) (status elapsed : Nat) : Note where
  level := .http
  message := s!"{request.method} {request.path} {status}"
  trace := none
  metadata := some (Json.ofPairs
    [("method", .string request.method), ("path", .string request.path),
      ("status", .ofNat status), ("durationMs", .ofNat (min elapsed 0xFFFFFFFFFFFFFFFF))])

/-- Stamps a reply, and logs the completed request where that is wanted. -/
def complete {Failure Body : Type} (logs : Bool) (id : String) (request : Inquiry) (begun : Nat)
    (reply : Reply Body) : Exchange (Except Failure (Reply Body)) :=
  let stamped := { reply with headers := stamp id reply.headers }
  if logs then
    .clock fun now =>
    .remark ⟨label, some id, completionNote request reply.status (now - begun)⟩ <|
    .finish (.ok stamped)
  else .finish (.ok stamped)

/-- A handler with every request under one id. A failure of the inner handler passes through. -/
def withRequestId {Failure Body : Type} (logs : Bool) (fresh : String)
    (inner : Handler Failure Body) : Handler Failure Body := fun _ request =>
  let id := (sentId? request.headers).getD fresh
  .clock fun begun =>
  (inner (some id) { request with headers := stamp id request.headers }).bind fun result =>
  match result with
  | .error failure => .finish (.error failure)
  | .ok reply => complete logs id request begun reply

def debugText (logs : Bool) : String :=
  let answer := if logs then "true" else "false"
  s!"RequestIdLayer \x7b logs_requests: {answer} \x7d"

end Gatehouse.Inbound
