import Gatehouse.Http.Body
import Gatehouse.Http.ClientError
import Gatehouse.Http.Config
import Gatehouse.Http.Exchange

/-!
# Calls

A call is an exchange: attempts with pauses between them, each announced and judged in the log. A
response with a good status ends the call if its body decodes; what may pass is tried again while
attempts are left; everything else ends the call with an error made of the last outcome.
-/
namespace Gatehouse

structure Response (α : Type) where
  data : α
  status : Nat
  statusText : String
  headers : List Header

namespace Response

def header {α : Type} (response : Response α) (name : String) : Option String :=
  Headers.lookup response.headers name

def isSuccess {α : Type} (response : Response α) : Bool := Status.isSuccess response.status

def map {α β : Type} (f : α → β) (response : Response α) : Response β :=
  { response with data := f response.data }

end Response

abbrev CallResult (α : Type) := Except ClientError (Response α)

namespace Call

/-- The label of everything that a client logs. -/
def label : String := "HttpClient"

/-- Everything that stays the same over the attempts of a call. -/
structure Setup where
  request : Request
  retry : RetryPolicy
  requestId : Option String

/-- What messages call a request by. -/
def Setup.target (setup : Setup) : String := s!"{setup.request.method} {setup.request.url}"

def noteOf (level : Level) (message : String) (metadata : List (String × Json)) : Note where
  level := level
  message := message
  trace := none
  metadata := some (Json.ofPairs metadata)

/-- Logs a note of the client under a request id. -/
def say {α : Type} (requestId : Option String) (note : Note) (next : Exchange α) : Exchange α :=
  .remark ⟨label, requestId, note⟩ next

def attemptFields (setup : Setup) (attempt : Nat) : List (String × Json) :=
  [("url", .string setup.request.url), ("attempt", .ofNat attempt)]

def startNote (setup : Setup) (attempt : Nat) : Note :=
  noteOf .debug s!"HTTP {setup.target} (attempt {attempt})" (attemptFields setup attempt)

def retryNote (setup : Setup) (attempt : Nat) : Note :=
  noteOf .debug s!"Retry attempt {attempt - 1}/{setup.retry.retries} for {setup.target}"
    (attemptFields setup attempt)

def responseNote (setup : Setup) (attempt status : Nat) : Note :=
  noteOf .debug s!"HTTP {setup.target} responded {status}"
    [("status", .ofNat status), ("attempt", .ofNat attempt)]

def failureFields (failure : AttemptFailure) : List (String × Json) :=
  [("status", .ofNat? failure.status?), ("message", .string failure.message)]

def failureNote (setup : Setup) (attempt : Nat) (failure : AttemptFailure) : Note :=
  noteOf .warn s!"HTTP {setup.target} attempt {attempt} failed: {failure.message}"
    (failureFields failure ++ [("attempt", .ofNat attempt)])

def defeatNote (setup : Setup) (attempts : Nat) (failure : AttemptFailure) : Note :=
  noteOf .error s!"HTTP {setup.target} failed after {attempts} attempts: {failure.message}"
    (failureFields failure ++ [("attempts", .ofNat attempts)])

/-- What an outcome means: a response, or a failure with the text of its cause. -/
inductive Verdict (α : Type)
  | success (response : Response α)
  | failure (failure : AttemptFailure) (cause : Option String)

/-- The verdict on a response of a good status. -/
def judgeBody {α : Type} (decoder : Json.Decoder α) (raw : RawResponse) : Verdict α :=
  match Body.decode decoder raw.body with
  | .ok data => .success ⟨data, raw.status, raw.statusText, Headers.normalize raw.headers⟩
  | .error error =>
    .failure (.unusable s!"Failed to decode response body: {error.message}") (some error.message)

def judge {α : Type} (decoder : Json.Decoder α) (outcome : Outcome) : Verdict α :=
  match outcome with
  | .ok raw =>
    if Status.isSuccess raw.status then judgeBody decoder raw
    else
      .failure (.refused raw.status (Body.ofError raw.body)
        s!"Request failed with status code {raw.status}") none
  | .error (.other message) => .failure (.unusable message) (some message)
  | .error error => .failure (.unanswered error.message) (some error.message)

/-- The status of an outcome that is announced before its body is looked at. -/
def goodStatus? : Outcome → Option Nat
  | .ok raw => if Status.isSuccess raw.status then some raw.status else none
  | .error _ => none

def announce {α : Type} (setup : Setup) (attempt : Nat) (outcome : Outcome)
    (next : Exchange α) : Exchange α :=
  match goodStatus? outcome with
  | some status => say setup.requestId (responseNote setup attempt status) next
  | none => next

/-- The attempt of a number and those after it, of which `spare` are left. -/
def attemptFrom {α : Type} (setup : Setup) (decoder : Json.Decoder α) :
    Nat → Nat → Exchange (CallResult α)
  | spare, attempt =>
    say setup.requestId (startNote setup attempt) <|
    .send setup.request fun outcome =>
    announce setup attempt outcome <|
    match judge decoder outcome with
    | .success response => .finish (.ok response)
    | .failure failure cause =>
      let giveUp : Exchange (CallResult α) :=
        say setup.requestId (defeatNote setup attempt failure) <|
        .finish (.error (.ofFailure failure cause))
      say setup.requestId (failureNote setup attempt failure) <|
      match spare with
      | 0 => giveUp
      | spare + 1 =>
        if failure.isRetryable then
          say setup.requestId (retryNote setup (attempt + 1)) <|
          .pause (setup.retry.delay attempt) <|
          attemptFrom setup decoder spare (attempt + 1)
        else giveUp

/-- The setup of a call: its plan with the headers merged. -/
def setupOf (config : ClientConfig) (method url : String) (body : Option Json)
    (options : CallOptions) (ambient : Option String) : Setup :=
  let plan := config.plan url options
  { request :=
      { method := method, url := plan.url, headers := Headers.merge plan.headers ambient,
        params := plan.params, body := body, timeout := plan.timeout }
    retry := plan.retry
    requestId := ambient }

/-- A call of any method under the request id that is ambient where it starts. -/
def request {α : Type} (config : ClientConfig) (decoder : Json.Decoder α) (method url : String)
    (body : Option Json) (options : CallOptions) (ambient : Option String) :
    Exchange (CallResult α) :=
  let setup := setupOf config method url body options ambient
  attemptFrom setup decoder (setup.retry.maxAttempts - 1) 1

/-- What a caller passes as a body: nothing, a value, or something that JSON cannot hold. -/
inductive Payload
  | nothing
  | value (body : Json)
  | unserializable (reason : String)

/-- A call with a body, which is made JSON before anything is sent. -/
def requestWith {α : Type} (config : ClientConfig) (decoder : Json.Decoder α) (method url : String)
    (payload : Payload) (options : CallOptions) (ambient : Option String) :
    Exchange (CallResult α) :=
  match payload with
  | .nothing => request config decoder method url none options ambient
  | .value body => request config decoder method url (some body) options ambient
  | .unserializable reason =>
    say ambient (noteOf .error s!"HTTP {method} {url} failed: request body is not serializable"
      [("message", .string reason)]) <|
    .finish (.error ((ClientError.ofMessage "Failed to serialize request body").withCause reason))

end Call

/-- A client with a transport of its own. -/
structure Client where
  config : ClientConfig

namespace Client

/-- Makes a client. The transport cannot be built with an agent that no header holds. -/
def make (config : ClientConfig) : Except ClientError Client :=
  if config.hasLegalAgent then .ok ⟨config⟩
  else .error ((ClientError.ofMessage "Failed to build HTTP transport").withCause "builder error")

def debugText (client : Client) : String :=
  s!"HttpClient \x7b config: {client.config.debugText}, .. \x7d"

end Client

end Gatehouse
