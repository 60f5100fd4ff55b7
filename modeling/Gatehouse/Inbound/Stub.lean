import Gatehouse.Http.Client
import Gatehouse.Inbound.Service

/-!
# Handlers that do as they are told

A stub logs some lines, lets others go first after each, may call another service, may sleep, and
then fails or replies. The reply tells what the stub saw.
-/
namespace Gatehouse.Inbound

/-- An outbound call; its result is whatever its caller makes of it. -/
abbrev Outbound (Shown : Type) := Option String → Exchange Shown

structure Stub (Shown : Type) where
  lines : List String
  outbound : Option (Outbound Shown)
  sleep : Option Span
  failure : Option String
  status : Nat
  headers : HeaderMap

/-- What a stub saw of a request, and of its own call. -/
structure Sighting (Shown : Type) where
  headers : HeaderMap
  ambient : Option String
  outbound : Option Shown

namespace Stub

variable {Shown : Type}

def label : String := "Handler"

def lineNote (line : String) : Note := ⟨.info, line, none, none⟩

/-- Logs the lines, going aside after each. -/
def logLines {α : Type} (ambient : Option String) : List String → Exchange α → Exchange α
  | [], next => next
  | line :: rest, next =>
    .remark ⟨label, ambient, lineNote line⟩ (.giveWay (logLines ambient rest next))

def rest {α : Type} (sleep : Option Span) (next : Exchange α) : Exchange α :=
  match sleep with
  | some span => .pause span next
  | none => next

def callOut (stub : Stub Shown) (ambient : Option String) : Exchange (Option Shown) :=
  match stub.outbound with
  | some outbound => (outbound ambient).bind fun shown => .finish (some shown)
  | none => .finish none

def handler (stub : Stub Shown) : Handler String (Sighting Shown) := fun ambient request =>
  logLines ambient stub.lines <|
  (stub.callOut ambient).bind fun shown =>
  rest stub.sleep <|
  match stub.failure with
  | some message => .finish (.error message)
  | none => .finish (.ok ⟨stub.status, stub.headers, request.headers, ambient, shown⟩)

end Stub

end Gatehouse.Inbound
