import Gatehouse.Http.Transport
import Gatehouse.Url.Form
import Gatehouse.Wire.Received

/-!
# Servers that follow a plan

A server takes one request on each connection and does what its plan says next: it replies, closes
the connection, or never answers. Once the plan is used up nobody listens any more.
-/
namespace Gatehouse.Wire

/-- A request as it is sent. -/
structure Outgoing where
  method : String
  target : String
  headers : List (String × List UInt8)
  body : List UInt8

/-- A reply; it announces some bytes more than it has. -/
structure Reply where
  status : Nat
  headers : List (String × List UInt8)
  body : List UInt8
  missing : Nat

inductive Behaviour
  | reply (reply : Reply)
  | close
  | hang

structure Server where
  host : List Char
  plan : List Behaviour
  seen : List Outgoing

/-- The error of a request that got no reply. -/
def unsent (url : Url) : TransportError :=
  .network s!"error sending request for url ({String.ofList url.text})" none

namespace Reply

/-- Statuses of replies that have no body. -/
def isBare (reply : Reply) : Bool := reply.status == 204 || reply.status == 304

def announced (reply : Reply) : List UInt8 :=
  Utf8.encode (Nat.toDigits 10 (reply.body.length + reply.missing))

/-- The headers with those that the server adds. -/
def lines (reply : Reply) : List (String × List UInt8) :=
  reply.headers
  ++ (if reply.isBare then [] else [("content-length", reply.announced)])
  ++ [("connection", bytesOf "close")]

def isPadding (b : UInt8) : Bool := b == 0x20 || b == 0x09

/-- A value without the blanks around it. -/
def unpadded (value : List UInt8) : List UInt8 :=
  ((value.dropWhile isPadding).reverse.dropWhile isPadding).reverse

/-- The headers as the other side reads them. -/
def readLines (reply : Reply) : List (String × List UInt8) :=
  reply.lines.map fun (name, value) => (Text.lowered name, unpadded value)

/-- Whether a client gets a body to a method's request. -/
def hasBody (reply : Reply) (method : String) : Bool :=
  !(reply.isBare || reply.status == 101 || method == "HEAD")

/-- Whether a client can read the head of a reply: a final status, legal headers, and one length. -/
def isReadable (reply : Reply) (method : String) : Bool :=
  (reply.status == 101 || (decide (200 ≤ reply.status) && decide (reply.status ≤ 999)))
    && (reply.lines.all fun (name, value) =>
      HeaderValue.isLegalName name && value.all HeaderValue.isLegal)
    && (!reply.hasBody method || (reply.readLines.all fun (name, value) =>
      name != "content-length" || value == reply.announced))

/-- What a client makes of a reply. -/
def read (reply : Reply) (url : Url) (method : String) : Outcome :=
  if !reply.isReadable method then .error (unsent url)
  else if reply.hasBody method && decide (0 < reply.missing) then
    .error (.network "error decoding response body" none)
  else
    .ok { status := reply.status
          statusText := Status.phrase reply.status
          headers := collect (.ofLines reply.readLines)
          body := if reply.hasBody method then reply.body else [] }

end Reply

end Gatehouse.Wire
