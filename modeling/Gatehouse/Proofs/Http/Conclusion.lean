import Gatehouse.Proofs.Http.Attempts
import Gatehouse.Proofs.Http.Counter

/-!
# How calls end

A call sends one and the same request until an outcome is no transient failure or its attempts are
used up, and what it returns is made of its last outcome alone. This holds on every stream of
outcomes, and of every run by the scheduler with any logger.
-/
namespace Gatehouse.Call

variable {α : Type}

/-! ## Requests and waits of a course -/

theorem requestsOf_attemptDeeds (setup : Setup) (decoder : Json.Decoder α) (attempt : Nat)
    (outcome : Outcome) : requestsOf (attemptDeeds setup decoder attempt outcome)
      = [setup.request] := by
  unfold attemptDeeds
  cases goodStatus? outcome <;> cases judge decoder outcome <;> rfl

theorem requestsOf_defeatDeeds (setup : Setup) (decoder : Json.Decoder α) (attempt : Nat)
    (outcome : Outcome) : requestsOf (defeatDeeds setup decoder attempt outcome) = [] := by
  unfold defeatDeeds
  cases judge decoder outcome <;> rfl

theorem waitsOf_attemptDeeds (setup : Setup) (decoder : Json.Decoder α) (attempt : Nat)
    (outcome : Outcome) : waitsOf (attemptDeeds setup decoder attempt outcome) = 0 := by
  unfold attemptDeeds
  cases goodStatus? outcome <;> cases judge decoder outcome <;> rfl

theorem waitsOf_defeatDeeds (setup : Setup) (decoder : Json.Decoder α) (attempt : Nat)
    (outcome : Outcome) : waitsOf (defeatDeeds setup decoder attempt outcome) = 0 := by
  unfold defeatDeeds
  cases judge decoder outcome <;> rfl

theorem waitsOf_retryDeeds_le (setup : Setup) (attempt : Nat) :
    waitsOf (retryDeeds setup attempt) ≤ 1 := by
  have told : (saying setup (retryNote setup (attempt + 1))).isWait = false := rfl
  rw [retryDeeds, waitsOf_cons, waitsOf_cons, told]
  generalize (Deed.paused (setup.retry.delay attempt)).isWait = waits
  cases waits <;> decide

/-- A course sends its request once more than it retries. -/
theorem requestsOf_courseFrom (setup : Setup) (decoder : Json.Decoder α) (attempt retries : Nat)
    (outcomes : Nat → Outcome) :
    requestsOf (courseFrom setup decoder attempt retries outcomes)
      = List.replicate (retries + 1) setup.request := by
  induction retries generalizing attempt outcomes with
  | zero =>
    simp only [courseFrom, List.range_zero, List.flatMap_nil, List.nil_append, requestsOf_append,
      requestsOf_attemptDeeds, requestsOf_defeatDeeds, List.append_nil]
    rfl
  | succ retries ih =>
    have quiet : requestsOf (retryDeeds setup attempt) = [] := rfl
    rw [courseFrom_succ, requestsOf_append, requestsOf_append, requestsOf_attemptDeeds, quiet, ih,
      List.append_nil, List.singleton_append, ← List.replicate_succ]

/-- A course waits at most once for each retry. -/
theorem waitsOf_courseFrom_le (setup : Setup) (decoder : Json.Decoder α) (attempt retries : Nat)
    (outcomes : Nat → Outcome) :
    waitsOf (courseFrom setup decoder attempt retries outcomes) ≤ retries := by
  induction retries generalizing attempt outcomes with
  | zero =>
    simp only [courseFrom, List.range_zero, List.flatMap_nil, List.nil_append, waitsOf_append,
      waitsOf_attemptDeeds, waitsOf_defeatDeeds, Nat.le_refl]
  | succ retries ih =>
    have one := waitsOf_retryDeeds_le setup attempt
    have rest := ih (attempt + 1) (fun i => outcomes (i + 1))
    rw [courseFrom_succ, waitsOf_append, waitsOf_append, waitsOf_attemptDeeds]
    omega

/-! ## The whole call -/

section

variable (config : ClientConfig) (decoder : Json.Decoder α) (method url : String)
  (body : Option Json) (options : CallOptions) (ambient : Option String) (outcomes : Nat → Outcome)
  (now : Nat)

theorem request_history :
    let setup := setupOf config method url body options ambient
    let retries := retriesTaken (setup.retry.maxAttempts - 1) outcomes
    (request config decoder method url body options ambient).history outcomes now
      = (courseFrom setup decoder 1 retries outcomes,
          (judge decoder (outcomes retries)).result) :=
  attemptFrom_history _ decoder _ 1 outcomes now

theorem requestsOf_request_history :
    let setup := setupOf config method url body options ambient
    let retries := retriesTaken (setup.retry.maxAttempts - 1) outcomes
    requestsOf ((request config decoder method url body options ambient).history outcomes now).1
      = List.replicate (retries + 1) setup.request := by
  intro setup retries
  rw [request_history config decoder method url body options ambient outcomes now]
  exact requestsOf_courseFrom setup decoder 1 retries outcomes

/-- A run that finds the outcomes of a call in its script replays the course of the call. -/
theorem runAlone_request_eq_replay {World Failure : Type} (logger : Logger World Failure)
    (rest : List Outcome) (sent : List Sent) (world : World) (spare : Nat) :
    let setup := setupOf config method url body options ambient
    let retries := retriesTaken (setup.retry.maxAttempts - 1) outcomes
    let scene : Scene World :=
      ⟨now, (List.range (retries + 1)).map outcomes ++ rest, sent, world⟩
    runAlone logger ⟨request config decoder method url body options ambient, retries + 1 + spare⟩
        scene
      = (some (judge decoder (outcomes retries)).result,
          replay logger (courseFrom setup decoder 1 retries outcomes) scene) := by
  intro setup retries scene
  let call := request config decoder method url body options ambient
  have told : call.history outcomes now
      = (courseFrom setup decoder 1 retries outcomes, (judge decoder (outcomes retries)).result) :=
    request_history config decoder method url body options ambient outcomes now
  have requests :
      requestsOf (call.history outcomes now).1 = List.replicate (retries + 1) setup.request :=
    requestsOf_request_history config decoder method url body options ambient outcomes now
  have delivered : ∀ i < (requestsOf (call.history outcomes now).1).length,
      scene.script[i]? = some (outcomes i) := by
    intro i inside
    rw [requests, List.length_replicate] at inside
    simp [scene, List.getElem?_append_left, inside]
  -- A call waits before each retry only, so there is a round for every wait.
  have few : waitsOf (call.history outcomes now).1 ≤ retries + 1 + spare := by
    have course := waitsOf_courseFrom_le setup decoder 1 retries outcomes
    rw [told]
    exact Nat.le_trans course (by omega)
  have run := runAlone_of_script logger call (retries + 1 + spare) outcomes scene delivered few
  exact run.trans (by rw [told])

theorem length_requestsOf_request :
    let call := request config decoder method url body options ambient
    let spare := (setupOf config method url body options ambient).retry.maxAttempts - 1
    (requestsOf (call.history outcomes now).1).length = retriesTaken spare outcomes + 1 := by
  intro call spare
  rw [requestsOf_request_history, List.length_replicate]

/-- A run that finds in its script an outcome for each request replays the history of the call. -/
theorem runAlone_request_eq_history {World Failure : Type} (logger : Logger World Failure)
    (rest : List Outcome) (sent : List Sent) (world : World) (spare : Nat) :
    let call := request config decoder method url body options ambient
    let told := call.history outcomes now
    let n := (requestsOf told.1).length
    let scene : Scene World := ⟨now, (List.range n).map outcomes ++ rest, sent, world⟩
    runAlone logger ⟨call, n + spare⟩ scene = (some told.2, replay logger told.1 scene) := by
  intro call told n scene
  have run := runAlone_request_eq_replay config decoder method url body options ambient outcomes now
    logger rest sent world spare
  have course := request_history config decoder method url body options ambient outcomes now
  simp only [scene, n, told, call, length_requestsOf_request, course]
  exact run

/-- Such a run uses up those outcomes and no more. -/
theorem runAlone_request {World Failure : Type} (logger : Logger World Failure)
    (rest : List Outcome) (sent : List Sent) (world : World) (spare : Nat) :
    let setup := setupOf config method url body options ambient
    let retries := retriesTaken (setup.retry.maxAttempts - 1) outcomes
    ∃ after,
      runAlone logger
          ⟨request config decoder method url body options ambient, retries + 1 + spare⟩
          ⟨now, (List.range (retries + 1)).map outcomes ++ rest, sent, world⟩
        = (some (judge decoder (outcomes retries)).result, after)
      ∧ after.sent.map Sent.request
        = sent.map Sent.request ++ List.replicate (retries + 1) setup.request
      ∧ after.script = rest := by
  intro setup retries
  have course := requestsOf_courseFrom setup decoder 1 retries outcomes
  refine ⟨_, runAlone_request_eq_replay config decoder method url body options ambient outcomes now
    logger rest sent world spare, ?_, ?_⟩
  · rw [replay_requests, course]
  · rw [replay_script, course, List.length_replicate]
    simp [retries, setup]

end

theorem isOk_iff (decoder : Json.Decoder α) {outcome : Outcome} {result : CallResult α}
    (ends : Concludes decoder outcome result) :
    (∃ response, result = .ok response) ↔
      ∃ raw data, outcome = .ok raw ∧ 200 ≤ raw.status ∧ raw.status < 300
        ∧ Body.decode decoder raw.body = .ok data := by
  constructor
  · rintro ⟨response, rfl⟩
    cases ends with
    | answered low high read => exact ⟨_, _, rfl, low, high, read⟩
  · rintro ⟨raw, data, rfl, low, high, read⟩
    cases ends with
    | answered => exact ⟨_, rfl⟩
    | unreadable _ _ unread => rw [read] at unread; cases unread
    | refused bad => exact absurd ⟨low, high⟩ bad

/-- A call on any stream of outcomes sends the same request `n` times and ends as outcome `n` says,
where `n` is the first attempt whose outcome is no transient failure, or the last one allowed. A
counter of 32 bits never overflows on the way, and every scheduled run does the same. -/
theorem request_concludes {World Failure : Type} (config : ClientConfig)
    (decoder : Json.Decoder α) (method url : String) (body : Option Json) (options : CallOptions)
    (ambient : Option String) (logger : Logger World Failure) (outcomes : Nat → Outcome)
    (now : Nat) :
    let call := request config decoder method url body options ambient
    let most := min (options.retries.getD config.retries + 1) 0xFFFFFFFF
    let wanted : Request :=
      { method := method, url := resolveUrl (options.baseUrl.or config.baseUrl) url
        headers := Headers.merge options.headers ambient, params := options.params, body := body
        timeout := options.timeout.getD config.timeout }
    ∃ (n : Nat) (result : CallResult α),
      (0 < n ∧ n ≤ most ∧ (∀ i, i + 1 < n → (outcomes i).isTransient)
        ∧ (n < most → ¬(outcomes (n - 1)).isTransient))
      ∧ requestsOf (call.history outcomes now).1 = List.replicate n wanted
      ∧ (call.history outcomes now).2 = result
      ∧ Concludes decoder (outcomes (n - 1)) result
      ∧ ((∃ response, result = .ok response) ↔
          ∃ raw data, outcomes (n - 1) = .ok raw ∧ 200 ≤ raw.status ∧ raw.status < 300
            ∧ Body.decode decoder raw.body = .ok data)
      ∧ loopFrom (setupOf config method url body options ambient) decoder 0
          = call.bind (fun result => .finish (some result))
      ∧ ∀ (rest : List Outcome) (sent : List Sent) (world : World) (spare : Nat),
          ∃ after,
            runAlone logger ⟨call, n + spare⟩
                ⟨now, (List.range n).map outcomes ++ rest, sent, world⟩ = (some result, after)
            ∧ after.sent.map Sent.request = sent.map Sent.request ++ List.replicate n wanted
            ∧ after.script = rest := by
  intro call most wanted
  let setup := setupOf config method url body options ambient
  let retries := retriesTaken (setup.retry.maxAttempts - 1) outcomes
  have told : call.history outcomes now
      = (courseFrom setup decoder 1 retries outcomes, (judge decoder (outcomes retries)).result) :=
    request_history config decoder method url body options ambient outcomes now
  have ends := judge_concludes decoder (outcomes retries)
  have requests :
      requestsOf (call.history outcomes now).1 = List.replicate (retries + 1) wanted :=
    requestsOf_request_history config decoder method url body options ambient outcomes now
  have cap : setup.retry.maxAttempts = most := rfl
  have positive : 0 < most := Nat.lt_min.mpr ⟨Nat.succ_pos _, by decide⟩
  have bounded := retriesTaken_le (setup.retry.maxAttempts - 1) outcomes
  refine ⟨retries + 1, (judge decoder (outcomes retries)).result, ⟨Nat.succ_pos _, ?_, ?_, ?_⟩,
    requests, by rw [told], ends, isOk_iff decoder ends, loopFrom_zero setup decoder, ?_⟩
  · omega
  · intro i inside
    apply transient_before _ outcomes i
    exact Nat.lt_of_succ_lt_succ inside
  · intro less
    rw [Nat.add_sub_cancel]
    have last := not_transient_at (setup.retry.maxAttempts - 1) outcomes (by omega)
    exact Bool.eq_false_iff.mp last
  · intro rest sent world spare
    exact runAlone_request config decoder method url body options ambient outcomes now logger rest
      sent world spare

end Gatehouse.Call
