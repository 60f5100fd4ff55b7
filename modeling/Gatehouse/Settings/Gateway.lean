import Gatehouse.Http.Config
import Gatehouse.Log.Settings
import Gatehouse.Number.Unsigned
import Gatehouse.Url.Basic

/-!
# Gateway settings

Fourteen variables, each with a default. A blank one counts as unset. Every variable is read
before any is checked for being zero, and the first one that is wrong is told.
-/
namespace Gatehouse

structure GatewaySettings where
  log : LogSettings
  http : ClientConfig

inductive SettingsFault
  | badUrl (name reason : String)
  | unreadable (name reason : String)
  | unacceptable (name reason : String)
deriving DecidableEq

def SettingsFault.message : SettingsFault → String
  | .badUrl name reason => s!"Invalid URL for {name}: {reason}"
  | .unreadable name reason => s!"Failed to parse environment variable {name}: {reason}"
  | .unacceptable name reason => s!"Invalid value for {name}: {reason}"

namespace GatewaySettings

/-- The values of variables. -/
abbrev Source := String → Option String

abbrev Reading (α : Type) := Except SettingsFault α

/-- The value of a variable that is set and not blank. -/
def value? (source : Source) (name : String) : Option String :=
  (source name).filter fun text => !Text.allBlank text.toList

/-- A variable by what its value means without the blanks around it. -/
def read {α : Type} (source : Source) (name : String) (fallback : α)
    (meaning : String → Except String α) : Reading α :=
  match value? source name with
  | none => .ok fallback
  | some text =>
    match meaning (Text.trimmed text) with
    | .ok value => .ok value
    | .error reason => .error (.unreadable name reason)

def levelOf (text : String) : Except String Level :=
  match Level.parse? text with
  | some level => .ok level
  | none => .error (Level.unknownMessage text)

def formatOf (text : String) : Except String LogFormat :=
  match LogFormat.parse? text with
  | some format => .ok format
  | none => .error (LogFormat.unknownMessage text)

def boolOf (text : String) : Except String Bool :=
  let word := Text.lowered text
  if ["true", "1", "yes"].contains word then .ok true
  else if ["false", "0", "no"].contains word then .ok false
  else .error s!"expected a boolean, got `{word}`"

/-- The largest numbers of 64 and of 32 bits. -/
def longNumber : Nat := 0xFFFFFFFFFFFFFFFF
def shortNumber : Nat := 0xFFFFFFFF

/-- A number up to a limit. -/
def numberOf (limit : Nat) (text : String) : Except String Nat :=
  match Unsigned.parse limit text.toList with
  | .ok value => .ok value
  | .error fault => .error fault.message

def millisOf (text : String) : Except String Span := (numberOf longNumber text).map Span.ofMillis

/-- What speaks against a text as an address, if anything does. -/
def addressFault? (text : String) : Option String :=
  match Url.parse text.toList with
  | .ok _ => none
  | .error fault => some fault.message

/-- A base address, kept as it was written unless something speaks against it. -/
def baseUrl (fault? : String → Option String) (source : Source) : Reading (Option String) :=
  match value? source "HTTP_BASE_URL" with
  | none => .ok none
  | some text =>
    match fault? text with
    | none => .ok (some text)
    | some reason => .error (.badUrl "HTTP_BASE_URL" reason)

def readLog (source : Source) : Reading LogSettings := do
  let usual := LogSettings.usual
  let level ← read source "LOG_LEVEL" usual.level levelOf
  let format ← read source "LOG_FORMAT" usual.format formatOf
  let colors ← read source "LOG_COLORS" usual.colors boolOf
  let toFile ← read source "LOG_TO_FILE" usual.toFile boolOf
  let maxFileSize ← read source "LOG_MAX_FILE_SIZE" usual.maxFileSize (numberOf longNumber)
  let maxFileAgeDays ←
    read source "LOG_MAX_FILE_AGE_DAYS" usual.maxFileAgeDays (numberOf longNumber)
  return {
    level := level, format := format, colors := colors, toFile := toFile
    folder := (value? source "LOG_DIR").getD usual.folder
    app := (value? source "APP_NAME").getD usual.app
    maxFileSize := maxFileSize, maxFileAgeDays := maxFileAgeDays }

def readHttp (fault? : String → Option String) (source : Source) : Reading ClientConfig := do
  let usual := ClientConfig.usual
  let timeout ← read source "HTTP_TIMEOUT_MS" usual.timeout millisOf
  let connectTimeout ← read source "HTTP_CONNECT_TIMEOUT_MS" usual.connectTimeout millisOf
  let retries ← read source "HTTP_RETRIES" usual.retries (numberOf shortNumber)
  let retryDelay ← read source "HTTP_RETRY_DELAY_MS" usual.retryDelay millisOf
  let base ← baseUrl fault? source
  return { usual with
    timeout := timeout, connectTimeout := connectTimeout, retries := retries
    retryDelay := retryDelay
    userAgent := (value? source "HTTP_USER_AGENT").getD usual.userAgent
    baseUrl := base }

/-- What no setting may be, once all are read. -/
def validate (settings : GatewaySettings) : Reading Unit :=
  if Text.allBlank settings.log.app.toList then
    .error (.unacceptable "APP_NAME" "must not be empty")
  else if settings.http.timeout.isZero then
    .error (.unacceptable "HTTP_TIMEOUT_MS" "timeout must be greater than 0")
  else if settings.http.connectTimeout.isZero then
    .error (.unacceptable "HTTP_CONNECT_TIMEOUT_MS" "timeout must be greater than 0")
  else if settings.log.maxFileSize = 0 then
    .error (.unacceptable "LOG_MAX_FILE_SIZE" "size must be greater than 0")
  else .ok ()

/-- Settings under a judgement on addresses. -/
def loadUnder (fault? : String → Option String) (source : Source) : Reading GatewaySettings := do
  let log ← readLog source
  let http ← readHttp fault? source
  let settings : GatewaySettings := ⟨log, http⟩
  validate settings
  return settings

def load (source : Source) : Reading GatewaySettings := loadUnder addressFault? source

end GatewaySettings

end Gatehouse
