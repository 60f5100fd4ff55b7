import Gatehouse.Json.Decoder
import Gatehouse.Text.AsciiCase
import Gatehouse.Text.Blank

/-!
# Log levels

From the gravest to the most detailed. A level is enabled when it is at least as grave as a
minimum, so a logger with the minimum `verbose` keeps everything.
-/
namespace Gatehouse

inductive Level
  | error
  | warn
  | info
  | http
  | debug
  | verbose
deriving DecidableEq

namespace Level

def all : List Level := [.error, .warn, .info, .http, .debug, .verbose]

/-- Zero for the gravest level. -/
def rank : Level → Nat
  | .error => 0
  | .warn => 1
  | .info => 2
  | .http => 3
  | .debug => 4
  | .verbose => 5

instance : LT Level := ⟨fun a b => a.rank < b.rank⟩

instance (a b : Level) : Decidable (a < b) := inferInstanceAs (Decidable (a.rank < b.rank))

def isEnabled (level minimum : Level) : Bool := level.rank ≤ minimum.rank

def name : Level → String
  | .error => "error"
  | .warn => "warn"
  | .info => "info"
  | .http => "http"
  | .debug => "debug"
  | .verbose => "verbose"

/-- The capitalized name that shows in debug text. -/
def title : Level → String
  | .error => "Error"
  | .warn => "Warn"
  | .info => "Info"
  | .http => "Http"
  | .debug => "Debug"
  | .verbose => "Verbose"

/-- The level of an event filter that lets events of this level through. -/
def directive : Level → String
  | .error => "error"
  | .warn => "warn"
  | .info => "info"
  | .http => "info"
  | .debug => "debug"
  | .verbose => "trace"

/-- Names that settings may use: each level's own and some aliases. -/
def ofName? (text : String) : Option Level :=
  match text with
  | "error" => some .error
  | "warn" => some .warn
  | "warning" => some .warn
  | "info" => some .info
  | "log" => some .info
  | "http" => some .http
  | "debug" => some .debug
  | "verbose" => some .verbose
  | "trace" => some .verbose
  | _ => none

/-- A level in any ASCII letter case, with blanks around it. -/
def parse? (text : String) : Option Level := ofName? (Text.lowered (Text.trimmed text))

/-- A level is told by its name. -/
theorem parse?_name (level : Level) : parse? level.name = some level := by
  cases level <;> rfl

/-- What is said of a text that names no level. -/
def unknownMessage (text : String) : String := s!"unknown log level: {text}"

/-- In documents only the levels' own names count. -/
def decoder : Json.Decoder Level := .oneOf (all.map fun level => (level.name, level))

end Level

end Gatehouse
