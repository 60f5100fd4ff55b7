import Gatehouse.Log.Format
import Gatehouse.Log.Record
import Gatehouse.Log.Redaction
import Gatehouse.Text.Quoted

/-!
# Loggers

A logger is a handle: a minimum level and a list of sinks, which all handles of a logger share,
and a label of its own. Sinks act on a world of their choosing and may fail; a failure reaches
neither the caller nor the other sinks.
-/
namespace Gatehouse

/-- Where records go. -/
structure Sink (World Failure : Type) where
  write : Record → World → Except Failure Unit × World
  flush : World → Except Failure Unit × World

structure Logger (World Failure : Type) where
  minimum : Level
  sinks : List (Sink World Failure)
  context : Option String

/-- What a caller logs. -/
structure Note where
  level : Level
  message : String
  trace : Option String
  metadata : Option Json

namespace Logger

variable {World Failure : Type}

/-- A logger that keeps nothing. -/
def silent : Logger World Failure := ⟨.info, [], none⟩

/-- A handle on the same sinks with another label. -/
def withContext (logger : Logger World Failure) (label : String) : Logger World Failure :=
  { logger with context := some label }

def isEnabled (logger : Logger World Failure) (level : Level) : Bool :=
  level.isEnabled logger.minimum

/-- The metadata of a record: the caller's, redacted. -/
def cleanMetadata (metadata : Option Json) : Json.Fields :=
  match metadata with
  | none => []
  | some value => Redaction.redactFields (Record.metadataOf value)

/-- The record of a note under a label, a request id and a time. -/
def recordOf (context ambient : Option String) (now : Timestamp) (note : Note) : Record where
  level := note.level
  message := note.message
  context := context
  requestId := ambient
  trace := note.trace
  metadata := cleanMetadata note.metadata
  time := now

/-- Offers a record to every sink in turn. -/
def offer (sinks : List (Sink World Failure)) (record : Record) (world : World) : World :=
  sinks.foldl (fun world sink => (sink.write record world).2) world

def log (logger : Logger World Failure) (ambient : Option String) (now : Timestamp) (note : Note)
    (world : World) : World :=
  if logger.isEnabled note.level then
    offer logger.sinks (recordOf logger.context ambient now note) world
  else world

def flush (logger : Logger World Failure) (world : World) : World :=
  logger.sinks.foldl (fun world sink => (sink.flush world).2) world

def debugText (logger : Logger World Failure) : String :=
  let context :=
    match logger.context with
    | some label => s!"Some({Text.quoted label})"
    | none => "None"
  s!"Logger \x7b min_level: {logger.minimum.title}, sinks: {logger.sinks.length}, "
    ++ s!"context: {context} \x7d"

end Logger

end Gatehouse
