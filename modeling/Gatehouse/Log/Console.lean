import Gatehouse.Log.Line
import Gatehouse.Log.Logger

/-!
# Console output

Each record is one line, or several when it is for people and has a trace. A console writes to one
of the two standard streams.
-/
namespace Gatehouse

inductive Stream
  | out
  | err
deriving DecidableEq

/-- The text written to the standard streams. -/
structure Terminal where
  out : List Char
  err : List Char

namespace Terminal

def blank : Terminal := ⟨[], []⟩

def write (terminal : Terminal) (stream : Stream) (text : List Char) : Terminal :=
  match stream with
  | .out => { terminal with out := terminal.out ++ text }
  | .err => { terminal with err := terminal.err ++ text }

end Terminal

structure Console where
  format : LogFormat
  app : String
  colors : Bool
  stream : Stream

namespace Console

/-- A console with colors on standard output. -/
def ofFormat (format : LogFormat) (app : String) : Console := ⟨format, app, true, .out⟩

/-- The line of a record with its line end. -/
def render (console : Console) (record : Record) : List Char :=
  (match console.format with
    | .json => record.jsonLine console.app
    | .pretty => record.prettyLine console.colors) ++ ['\n']

def write (console : Console) (record : Record) (terminal : Terminal) : Terminal :=
  terminal.write console.stream (console.render record)

end Console

end Gatehouse
