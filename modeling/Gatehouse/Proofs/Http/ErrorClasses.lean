import Gatehouse.Proofs.Http.Bodies

/-!
# Classes of errors

Whether a failure may pass is decided twice: of a failed attempt, to try again, and of the error
that the caller gets. The two agree, so an error that may pass tells that every attempt was used up.
However an error is made, it has a status just if a response is to blame, and it is the client's,
the server's or the network's at most once.
-/
namespace Gatehouse

namespace ClientError

/-- Errors that are made of a message, with a status, data or a cause attached in any order. -/
inductive IsBuilt : ClientError → Prop
  | ofMessage (message : String) : IsBuilt (.ofMessage message)
  | ofNetwork (message : String) : IsBuilt (.ofNetwork message)
  | withStatus {error : ClientError} (built : IsBuilt error) (status : Nat) :
      IsBuilt (error.withStatus status)
  | withData {error : ClientError} (built : IsBuilt error) (data : Json) :
      IsBuilt (error.withData data)
  | withCause {error : ClientError} (built : IsBuilt error) (cause : String) :
      IsBuilt (error.withCause cause)

structure IsClassified (error : ClientError) : Prop where
  status : error.status.isSome ↔ error.kind = .response
  once : [error.isClientError, error.isServerError, error.isNetworkError].count true ≤ 1

/-- What an error of the client says about the last outcome, if there was one. -/
structure IsOwn (error : ClientError) (last : Option Outcome) : Prop where
  classified : error.IsClassified
  data : error.data.isSome
    ↔ error.kind = .response ∧ ∃ raw : RawResponse, last = some (.ok raw) ∧ raw.body ≠ []
  cause : error.cause.isSome ↔ error.kind ≠ .response

/-! ## One class at most -/

/-- The classes of an error are told by its status, and by its kind where it has none. -/
theorem isClassified_of_status {error : ClientError}
    (status : error.status.isSome ↔ error.kind = .response) : error.IsClassified := by
  refine ⟨status, ?_⟩
  cases held : error.status with
  | none =>
    simp only [isClientError, isServerError, held, Option.any_none]
    cases error.isNetworkError <;> decide
  | some number =>
    have network : error.isNetworkError = false := by
      have kind : error.kind = .response := status.mp (by rw [held]; rfl)
      rw [isNetworkError, kind]
      rfl
    -- No number is in the ranges of both.
    have apart : ¬ (error.isClientError = true ∧ error.isServerError = true) := by
      simp only [isClientError, isServerError, held, Option.any_some, Bool.and_eq_true,
        decide_eq_true_eq]
      omega
    rw [network]
    cases client : error.isClientError <;> cases server : error.isServerError
    case true.true => exact absurd ⟨client, server⟩ apart
    all_goals decide

theorem IsBuilt.isClassified {error : ClientError} (built : error.IsBuilt) :
    error.IsClassified := by
  apply isClassified_of_status
  induction built with
  | ofMessage message => simp [ClientError.ofMessage]
  | ofNetwork message => simp [ClientError.ofNetwork]
  | withStatus built status => simp [ClientError.withStatus]
  | withData built data ih => exact ih
  | withCause built cause ih => exact ih

/-! ## Errors of failed attempts -/

/-- An error may pass just if the failure that it is made of may. -/
theorem ofFailure_isRetryable (failure : AttemptFailure) (cause : Option String) :
    (ofFailure failure cause).isRetryable = failure.isRetryable := by
  cases failure <;> rfl

/-- An error without data about no response, and with its cause. -/
theorem isOwn_of_cause {error : ClientError} (last : Option Outcome)
    (kind : error.kind ≠ .response) (status : error.status = none) (data : error.data = none)
    (cause : error.cause.isSome) : error.IsOwn last where
  classified := isClassified_of_status (by simp [status, kind])
  data := by simp [data, kind]
  cause := by simp [cause, kind]

end ClientError

namespace Call

variable {α : Type}

theorem Concludes.isOwn {decoder : Json.Decoder α} {outcome : Outcome} {error : ClientError}
    (ends : Concludes decoder outcome (.error error)) : error.IsOwn (some outcome) := by
  cases ends with
  | unreadable => exact ClientError.isOwn_of_cause _ nofun rfl rfl rfl
  | unanswered => exact ClientError.isOwn_of_cause _ nofun rfl rfl rfl
  | broken => exact ClientError.isOwn_of_cause _ nofun rfl rfl rfl
  | @refused raw bad =>
    constructor
    case classified => exact ClientError.isClassified_of_status (by simp)
    case data => simp [Option.isSome_iff_ne_none, Body.ofError_eq_none_iff]
    case cause => simp

/-- An error may pass just if the outcome may that the call ended with. -/
theorem isRetryable_of_result {decoder : Json.Decoder α} {outcome : Outcome} {error : ClientError}
    (result : (judge decoder outcome).result = .error error) :
    error.isRetryable = outcome.isTransient := by
  cases verdict : judge decoder outcome with
  | success response =>
    rw [verdict] at result
    cases result
  | failure failure cause =>
    rw [verdict] at result
    obtain rfl : ClientError.ofFailure failure cause = error := Except.error.inj result
    rw [ClientError.ofFailure_isRetryable, judge_isRetryable decoder outcome verdict]

/-- A call that ends with a transient failure has used up its attempts. -/
theorem retriesTaken_of_isTransient {spare : Nat} {outcomes : Nat → Outcome}
    (transient : (outcomes (retriesTaken spare outcomes)).isTransient) :
    retriesTaken spare outcomes = spare := by
  refine Nat.le_antisymm (retriesTaken_le spare outcomes) (Nat.not_lt.mp fun fewer => ?_)
  rw [not_transient_at spare outcomes fewer] at transient
  cases transient

/-- The decision to try again and the class of the error agree. So a call that fails with an error
that may pass has made all its attempts, and one that makes fewer fails with another error. The
errors of calls and all that can be built are classified; those of the client hold data just of a
response with a body, and a cause just where no response is to blame. -/
theorem retry_classes_agree :
    (∀ (failure : AttemptFailure) (cause : Option String),
      (ClientError.ofFailure failure cause).isRetryable = failure.isRetryable)
    ∧ (∀ error : ClientError, error.IsBuilt → error.IsClassified)
    ∧ (∀ (World Failure α : Type) (config : ClientConfig) (decoder : Json.Decoder α)
        (method url : String) (body : Option Json) (options : CallOptions)
        (ambient : Option String) (logger : Logger World Failure) (outcomes : Nat → Outcome)
        (now : Nat),
        let call := request config decoder method url body options ambient
        let most := min (options.retries.getD config.retries + 1) 0xFFFFFFFF
        let told := call.history outcomes now
        let n := (requestsOf told.1).length
        (∀ (rest : List Outcome) (sent : List Sent) (world : World) (spare : Nat), ∃ after,
          runAlone logger ⟨call, n + spare⟩
              ⟨now, (List.range n).map outcomes ++ rest, sent, world⟩ = (some told.2, after)
            ∧ after.sent.length = sent.length + n)
        ∧ ∀ error, told.2 = .error error →
            (error.isRetryable → n = most) ∧ (n < most → ¬ error.isRetryable)
              ∧ error.IsOwn (some (outcomes (n - 1))))
    ∧ (∀ (α : Type) (config : ClientConfig) (decoder : Json.Decoder α) (method url reason : String)
        (options : CallOptions) (ambient : Option String) (outcomes : Nat → Outcome) (now : Nat),
        let call := requestWith config decoder method url (.unserializable reason) options ambient
        ∃ error, (call.history outcomes now).2 = .error error
          ∧ requestsOf (call.history outcomes now).1 = []
          ∧ ¬ error.isRetryable ∧ error.IsOwn none)
    ∧ ∀ (config : ClientConfig) (error : ClientError), Client.make config = .error error →
        error.IsOwn none := by
  refine ⟨ClientError.ofFailure_isRetryable, fun error built => built.isClassified, ?_, ?_, ?_⟩
  · intro World Failure α config decoder method url body options ambient logger outcomes now call
      most told n
    let setup := setupOf config method url body options ambient
    let retries := retriesTaken (setup.retry.maxAttempts - 1) outcomes
    have course : told
        = (courseFrom setup decoder 1 retries outcomes,
            (judge decoder (outcomes retries)).result) :=
      request_history config decoder method url body options ambient outcomes now
    have made : n = retries + 1 := by
      have requests : requestsOf told.1 = List.replicate (retries + 1) setup.request :=
        requestsOf_request_history config decoder method url body options ambient outcomes now
      simp only [n, requests, List.length_replicate]
    have result : told.2 = (judge decoder (outcomes retries)).result := by rw [course]
    -- The attempt after all retries is the last one, and its outcome settles the call.
    have cap : setup.retry.maxAttempts = most := rfl
    have positive : 0 < most := Nat.lt_min.mpr ⟨Nat.succ_pos _, by decide⟩
    refine ⟨?_, ?_⟩
    · intro rest sent world spare
      obtain ⟨after, run, requests, _⟩ := runAlone_request config decoder method url body options
        ambient outcomes now logger rest sent world spare
      refine ⟨after, ?_, ?_⟩
      · rw [made, result]
        exact run
      · have length := congrArg List.length requests
        simp only [List.length_map, List.length_append, List.length_replicate] at length
        rw [made]
        exact length
    · intro error failed
      have ends := judge_concludes decoder (outcomes retries)
      rw [result] at failed
      have all : error.isRetryable = true → n = most := by
        intro again
        rw [isRetryable_of_result failed] at again
        have last := retriesTaken_of_isTransient again
        omega
      refine ⟨all, fun fewer again => absurd (all again) (Nat.ne_of_lt fewer), ?_⟩
      rw [failed] at ends
      rw [made]
      exact ends.isOwn
  · intro α config decoder method url reason options ambient outcomes now call
    refine ⟨_, rfl, rfl, nofun, ?_⟩
    exact ClientError.isOwn_of_cause none nofun rfl rfl rfl
  · intro config error failed
    rw [Client.make] at failed
    split at failed
    · cases failed
    · cases failed
      exact ClientError.isOwn_of_cause none nofun rfl rfl rfl

/-- An error that became one of a response, a server that is busy twice with one retry allowed, and
a client whose agent no header holds. -/
theorem retry_classes_agree_of_overload :
    let built := ((ClientError.ofNetwork "refused").withCause "reset").withStatus 429
    let call : Exchange (CallResult Json) :=
      request .usual .json "GET" "/" none { CallOptions.none with retries := some 1 } none
    let busy : Outcome := .ok ⟨503, "Service Unavailable", [], bytesOf "busy"⟩
    let told := call.history (fun _ => busy) 0
    built.IsClassified
      ∧ (∃ error, told.2 = .error error ∧ error.isRetryable ∧ (requestsOf told.1).length = 2
          ∧ error.IsOwn (some busy))
      ∧ ∃ error, Client.make { ClientConfig.usual with userAgent := "\n" } = .error error
          ∧ error.IsOwn none := by
  intro built call busy told
  obtain ⟨_, classified, runs, _, make⟩ := retry_classes_agree
  have failed : told.2 = .error (.ofFailure (.refused 503 (Body.ofError (bytesOf "busy"))
      s!"Request failed with status code {503}") none) := by
    simp only [told, call, request_history]
    rfl
  refine ⟨classified built (.withStatus (.withCause (.ofNetwork _) _) _), ⟨_, failed, ?_⟩, ?_⟩
  · obtain ⟨all, _, own⟩ := (runs Unit Unit Json .usual .json "GET" "/" none
      { CallOptions.none with retries := some 1 } none .silent (fun _ => busy) 0).2 _ failed
    exact ⟨rfl, all rfl, own⟩
  · have refused : Client.make { ClientConfig.usual with userAgent := "\n" }
        = .error ((ClientError.ofMessage "Failed to build HTTP transport").withCause
            "builder error") := by rfl
    exact ⟨_, refused, make _ _ refused⟩

end Call

end Gatehouse
