import Gatehouse.Http.Exchange
import Gatehouse.Wire.Server

/-!
# Requests over the wire

A request is checked and completed before it is sent: an address that is none, or a header that is
illegal, never leaves the process. What goes out has the caller's headers and those that every
request needs.
-/
namespace Gatehouse.Wire

/-- A header in the form in which it is sent. -/
def legalHeader? (header : Header) : Option (String × List UInt8) :=
  if HeaderValue.isLegalName header.1 then
    (HeaderValue.ofText? header.2).map fun value => (Text.lowered header.1, value)
  else none

def builderError : TransportError := .other "builder error"

/-- An address that no request can be sent to. -/
def unreachable (url : Url) : TransportError :=
  .other s!"builder error for url ({String.ofList url.text})"

/-- Where a request goes, and its headers; or why it cannot be made. An address without a host is
refused before the headers are looked at, one of a foreign scheme only after. -/
def resolve (request : Request) : Except TransportError (Url × List (String × List UInt8)) :=
  match Url.parse request.url.toList with
  | .error _ => .error builderError
  | .ok url =>
    if !url.hasHost then .error (unreachable url)
    else
      match request.headers.mapM legalHeader? with
      | none => .error builderError
      | some headers =>
        let url := url.withoutUser.withParams request.params
        if (url.scheme = "http".toList ∨ url.scheme = "https".toList) ∧ url.isSendable then
          .ok (url, headers)
        else .error (unreachable url)

/-- Adds a header unless the name is there. -/
def supply (name : String) (value : List UInt8) (headers : List (String × List UInt8)) :
    List (String × List UInt8) :=
  if headers.any fun header => header.1 == name then headers else headers ++ [(name, value)]

/-- The request that is sent. -/
def outgoing (agent : String) (request : Request) (url : Url)
    (headers : List (String × List UInt8)) : Outgoing :=
  let body := (request.body.map fun body => Utf8.encode body.print).getD []
  let completed := supply "host" (Utf8.encode url.hostAndPort)
    (supply "user-agent" (bytesOf agent) (supply "accept" (bytesOf "*/*") headers))
  { method := request.method
    target := String.ofList url.target
    headers :=
      if request.body.isSome then
        supply "content-length" (Utf8.encode (Nat.toDigits 10 body.length)) completed
      else completed
    body := body }

/-- Sends a request to a server, if its address is the server's. -/
def deliver (agent : String) (request : Request) (url : Url)
    (headers : List (String × List UInt8)) (server : Server) : Outcome × Server :=
  match server.plan with
  | [] => (.error (unsent url), server)
  | behaviour :: rest =>
    if url.scheme = "http".toList ∧ url.hostAndPort = server.host then
      let sent := outgoing agent request url headers
      let server := { server with plan := rest, seen := server.seen ++ [sent] }
      match behaviour with
      | .reply reply => (reply.read url request.method, server)
      | .close => (.error (unsent url), server)
      | .hang => (.error (.timeout request.timeout), server)
    else (.error (unsent url), server)

/-- One round trip. -/
def send (agent : String) (request : Request) (server : Server) : Outcome × Server :=
  match resolve request with
  | .error error => (.error error, server)
  | .ok (url, headers) =>
    if request.timeout.isZero then (.error (.timeout request.timeout), server)
    else deliver agent request url headers server

/-- Runs an exchange with a server. Nothing else runs, so waiting changes nothing. -/
def converse {Result : Type} (agent : String) : Exchange Result → Server → Result × Server
  | .finish result, server => (result, server)
  | .remark _ next, server => converse agent next server
  | .clock next, server => converse agent (next 0) server
  | .pause _ next, server => converse agent next server
  | .giveWay next, server => converse agent next server
  | .send request next, server =>
    let (outcome, server) := send agent request server
    converse agent (next outcome) server

end Gatehouse.Wire
