import Gatehouse.Http.Retry

/-!
# Errors of calls

What a caller gets when a call has failed for good.
-/
namespace Gatehouse

inductive FailureKind
  | network
  | response
  | other
deriving DecidableEq

def FailureKind.name : FailureKind → String
  | .network => "network"
  | .response => "response"
  | .other => "other"

structure ClientError where
  message : String
  kind : FailureKind
  status : Option Nat
  data : Option Json
  cause : Option String

namespace ClientError

def ofMessage (message : String) : ClientError := ⟨message, .other, none, none, none⟩

def ofNetwork (message : String) : ClientError := ⟨message, .network, none, none, none⟩

/-- An error with a status is one of a response. -/
def withStatus (error : ClientError) (status : Nat) : ClientError :=
  { error with kind := .response, status := some status }

def withData (error : ClientError) (data : Json) : ClientError := { error with data := some data }

def withCause (error : ClientError) (cause : String) : ClientError :=
  { error with cause := some cause }

def isClientError (error : ClientError) : Bool :=
  error.status.any fun status => decide (400 ≤ status) && decide (status ≤ 499)

def isServerError (error : ClientError) : Bool :=
  error.status.any fun status => decide (500 ≤ status)

def isNetworkError (error : ClientError) : Bool := error.kind == .network

def isRetryable (error : ClientError) : Bool :=
  match error.kind, error.status with
  | .network, _ => true
  | .response, some status => Status.isRetryable status
  | .response, none => false
  | .other, _ => false

/-- The error of a call whose last attempt failed. -/
def ofFailure (failure : AttemptFailure) (cause : Option String) : ClientError :=
  match failure with
  | .unanswered message _ => ⟨message, .network, none, none, cause⟩
  | .refused status body message => ⟨message, .response, some status, body, cause⟩
  | .unusable message => ⟨message, .other, none, none, cause⟩

end ClientError

end Gatehouse
