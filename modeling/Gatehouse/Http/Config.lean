import Gatehouse.Http.Header
import Gatehouse.Http.HeaderValue
import Gatehouse.Http.Retry
import Gatehouse.Text.Quoted

/-!
# Client configuration

What a client does unless a call says otherwise, and what a call may say.
-/
namespace Gatehouse

structure ClientConfig where
  timeout : Span
  connectTimeout : Span
  poolIdleTimeout : Span
  poolMaxIdlePerHost : Nat
  userAgent : String
  retries : Nat
  retryDelay : Span
  baseUrl : Option String

/-- The configuration of a client that was told nothing. -/
def ClientConfig.usual : ClientConfig where
  timeout := .ofMillis 30000
  connectTimeout := .ofMillis 10000
  poolIdleTimeout := .ofMillis 90000
  poolMaxIdlePerHost := 10
  userAgent := "cms-gateway/1.0"
  retries := RetryPolicy.usual.retries
  retryDelay := RetryPolicy.usual.baseDelay
  baseUrl := none

/-- What one call says. -/
structure CallOptions where
  headers : List Header
  params : List Header
  timeout : Option Span
  retries : Option Nat
  retryDelay : Option Span
  baseUrl : Option String
deriving DecidableEq

def CallOptions.none : CallOptions := ⟨[], [], .none, .none, .none, .none⟩

/-- What holds for a call. -/
structure CallPlan where
  url : String
  headers : List Header
  params : List Header
  timeout : Span
  retry : RetryPolicy

/-- The base, if there is one, and the path behind it; nothing is added between them. -/
def resolveUrl (base : Option String) (url : String) : String :=
  match base with
  | some base => base ++ url
  | .none => url

namespace ClientConfig

/-- The call's own values where it has some, the client's elsewhere. -/
def plan (config : ClientConfig) (url : String) (call : CallOptions) : CallPlan where
  url := resolveUrl (call.baseUrl.or config.baseUrl) url
  headers := call.headers
  params := call.params
  timeout := call.timeout.getD config.timeout
  retry := ⟨call.retries.getD config.retries, call.retryDelay.getD config.retryDelay⟩

def debugText (config : ClientConfig) : String :=
  let base :=
    match config.baseUrl with
    | some url => s!"Some({Text.quoted url})"
    | .none => "None"
  s!"HttpConfig \x7b timeout: {config.timeout.text}, "
    ++ s!"connect_timeout: {config.connectTimeout.text}, "
    ++ s!"pool_idle_timeout: {config.poolIdleTimeout.text}, "
    ++ s!"pool_max_idle_per_host: {config.poolMaxIdlePerHost}, "
    ++ s!"user_agent: {Text.quoted config.userAgent}, retries: {config.retries}, "
    ++ s!"retry_delay: {config.retryDelay.text}, base_url: {base} \x7d"

/-- Whether the user agent can stand in a header. -/
def hasLegalAgent (config : ClientConfig) : Bool :=
  (HeaderValue.ofText? config.userAgent).isSome

end ClientConfig

end Gatehouse
