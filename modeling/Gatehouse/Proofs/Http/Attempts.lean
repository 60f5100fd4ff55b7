import Gatehouse.Http.Client
import Gatehouse.Proofs.Http.History

/-!
# The attempts of a call

A call on a stream of outcomes goes through transient failures up to the first outcome that is none,
or up to its last attempt, and ends as that outcome alone says. The history of a call is given in
closed form; its requests, its pauses and its log can be read off.
-/
namespace Gatehouse

/-- A failure that another attempt may not meet again. -/
def Outcome.isTransient : Outcome → Bool
  | .ok raw => decide (500 ≤ raw.status) || raw.status == 429
  | .error error => error.isNetwork

namespace Call

variable {α : Type}

/-- What a call returns when an outcome is its last. -/
inductive Concludes (decoder : Json.Decoder α) : Outcome → CallResult α → Prop
  | answered {raw : RawResponse} {data : α} :
      200 ≤ raw.status → raw.status < 300 → Body.decode decoder raw.body = .ok data →
      Concludes decoder (.ok raw)
        (.ok ⟨data, raw.status, raw.statusText, Headers.normalize raw.headers⟩)
  | unreadable {raw : RawResponse} {error : Json.Error} :
      200 ≤ raw.status → raw.status < 300 → Body.decode decoder raw.body = .error error →
      Concludes decoder (.ok raw)
        (.error ⟨s!"Failed to decode response body: {error.message}", .other, none, none,
          some error.message⟩)
  | refused {raw : RawResponse} :
      ¬(200 ≤ raw.status ∧ raw.status < 300) →
      Concludes decoder (.ok raw)
        (.error ⟨s!"Request failed with status code {raw.status}", .response, some raw.status,
          Body.ofError raw.body, none⟩)
  | unanswered {error : TransportError} :
      error.isNetwork →
      Concludes decoder (.error error)
        (.error ⟨error.message, .network, none, none, some error.message⟩)
  | broken {message : String} :
      Concludes decoder (.error (.other message))
        (.error ⟨message, .other, none, none, some message⟩)

/-! ## Verdicts -/

/-- What a verdict means for a call that ends with it. -/
def Verdict.result : Verdict α → CallResult α
  | .success response => .ok response
  | .failure reason cause => .error (.ofFailure reason cause)

theorem isSuccess_iff {status : Nat} :
    Status.isSuccess status = true ↔ 200 ≤ status ∧ status < 300 := by
  simp only [Status.isSuccess, Bool.and_eq_true, decide_eq_true_eq]

theorem not_isTransient_of_lt {raw : RawResponse} (low : raw.status < 300) :
    Outcome.isTransient (.ok raw) = false := by
  simp only [Outcome.isTransient, Bool.or_eq_false_iff, decide_eq_false_iff_not,
    beq_eq_false_iff_ne]
  omega

theorem judge_concludes (decoder : Json.Decoder α) (outcome : Outcome) :
    Concludes decoder outcome (judge decoder outcome).result := by
  cases outcome with
  | ok raw =>
    by_cases good : Status.isSuccess raw.status
    · obtain ⟨low, high⟩ := isSuccess_iff.mp good
      simp only [judge, if_pos good, judgeBody]
      cases read : Body.decode decoder raw.body with
      | ok data => exact .answered low high read
      | error error => exact .unreadable low high read
    · simp only [judge, if_neg good]
      apply Concludes.refused
      exact fun range => good (isSuccess_iff.mpr range)
  | error error =>
    cases error with
    | network message source => exact .unanswered rfl
    | timeout limit => exact .unanswered rfl
    | other message => exact .broken

/-- The retry decision looks at the outcome alone, not at what the caller decodes into. -/
theorem judge_isRetryable (decoder : Json.Decoder α) (outcome : Outcome)
    {failure : AttemptFailure} {cause : Option String}
    (failed : judge decoder outcome = .failure failure cause) :
    failure.isRetryable = outcome.isTransient := by
  cases outcome with
  | ok raw =>
    by_cases good : Status.isSuccess raw.status
    · -- A good status fails by its body only, and such a failure is never tried again.
      rw [not_isTransient_of_lt (isSuccess_iff.mp good).2]
      simp only [judge, if_pos good, judgeBody] at failed
      cases read : Body.decode decoder raw.body with
      | ok data => simp [read] at failed
      | error error =>
        simp only [read, Verdict.failure.injEq] at failed
        rw [← failed.1]
        rfl
    · simp only [judge, if_neg good, Verdict.failure.injEq] at failed
      rw [← failed.1]
      rfl
  | error error =>
    cases error <;> simp only [judge, Verdict.failure.injEq] at failed <;> rw [← failed.1] <;> rfl

theorem not_isTransient_of_success (decoder : Json.Decoder α) (outcome : Outcome)
    {response : Response α} (succeeded : judge decoder outcome = .success response) :
    outcome.isTransient = false := by
  have ends := judge_concludes decoder outcome
  rw [succeeded] at ends
  cases ends with
  | answered low high read => exact not_isTransient_of_lt high

/-! ## The history in closed form -/

/-- The retries that a call takes when it has so many to spare. -/
def retriesTaken : Nat → (Nat → Outcome) → Nat
  | 0, _ => 0
  | spare + 1, outcomes =>
    if (outcomes 0).isTransient then retriesTaken spare (fun i => outcomes (i + 1)) + 1 else 0

theorem retriesTaken_le (spare : Nat) (outcomes : Nat → Outcome) :
    retriesTaken spare outcomes ≤ spare := by
  induction spare generalizing outcomes with
  | zero => exact Nat.le_refl 0
  | succ spare ih =>
    rw [retriesTaken]
    split
    · exact Nat.succ_le_succ (ih _)
    · exact Nat.zero_le _

theorem transient_before (spare : Nat) (outcomes : Nat → Outcome) :
    ∀ i < retriesTaken spare outcomes, (outcomes i).isTransient := by
  induction spare generalizing outcomes with
  | zero => exact fun i inside => absurd inside (Nat.not_lt_zero i)
  | succ spare ih =>
    intro i inside
    rw [retriesTaken] at inside
    split at inside
    next first =>
      cases i with
      | zero => exact first
      | succ i => exact ih (fun i => outcomes (i + 1)) i (Nat.lt_of_succ_lt_succ inside)
    · exact absurd inside (Nat.not_lt_zero i)

theorem not_transient_at (spare : Nat) (outcomes : Nat → Outcome)
    (left : retriesTaken spare outcomes < spare) :
    (outcomes (retriesTaken spare outcomes)).isTransient = false := by
  induction spare generalizing outcomes with
  | zero => exact absurd left (Nat.not_lt_zero _)
  | succ spare ih =>
    rw [retriesTaken] at left ⊢
    split at left
    next first =>
      rw [if_pos first]
      exact ih (fun i => outcomes (i + 1)) (Nat.lt_of_succ_lt_succ left)
    next first =>
      rw [if_neg first]
      exact Bool.eq_false_iff.mpr first

/-- A call ends with the first response of a status below 300. -/
theorem last_of_success {spare i : Nat} {outcomes : Nat → Outcome} {raw : RawResponse}
    (made : i ≤ retriesTaken spare outcomes) (answer : outcomes i = .ok raw)
    (good : raw.status < 300) : i = retriesTaken spare outcomes := by
  rcases Nat.lt_or_eq_of_le made with before | same
  · have transient := transient_before spare outcomes i before
    rw [answer, not_isTransient_of_lt good] at transient
    cases transient
  · exact same

/-- What is said under the request id of a call. -/
def saying (setup : Setup) (note : Note) : Deed := .said ⟨label, setup.requestId, note⟩

/-- An attempt is announced and made, a good status is told, a failure too. -/
def attemptDeeds (setup : Setup) (decoder : Json.Decoder α) (attempt : Nat) (outcome : Outcome) :
    List Deed :=
  [saying setup (startNote setup attempt), .sent setup.request]
  ++ (match goodStatus? outcome with
      | some status => [saying setup (responseNote setup attempt status)]
      | none => [])
  ++ (match judge decoder outcome with
      | .success _ => []
      | .failure failure _ => [saying setup (failureNote setup attempt failure)])

/-- Before it is tried again, the next attempt is announced and waited for. -/
def retryDeeds (setup : Setup) (attempt : Nat) : List Deed :=
  [saying setup (retryNote setup (attempt + 1)), .paused (setup.retry.delay attempt)]

/-- A call that fails for good tells so. -/
def defeatDeeds (setup : Setup) (decoder : Json.Decoder α) (attempt : Nat) (outcome : Outcome) :
    List Deed :=
  match judge decoder outcome with
  | .success _ => []
  | .failure failure _ => [saying setup (defeatNote setup attempt failure)]

/-- The deeds of a call from an attempt on, given the number of its retries after that one. -/
def courseFrom (setup : Setup) (decoder : Json.Decoder α) (attempt retries : Nat)
    (outcomes : Nat → Outcome) : List Deed :=
  (List.range retries).flatMap (fun i =>
    attemptDeeds setup decoder (attempt + i) (outcomes i) ++ retryDeeds setup (attempt + i))
  ++ attemptDeeds setup decoder (attempt + retries) (outcomes retries)
  ++ defeatDeeds setup decoder (attempt + retries) (outcomes retries)

theorem courseFrom_succ (setup : Setup) (decoder : Json.Decoder α) (attempt retries : Nat)
    (outcomes : Nat → Outcome) :
    courseFrom setup decoder attempt (retries + 1) outcomes
      = attemptDeeds setup decoder attempt (outcomes 0) ++ retryDeeds setup attempt
        ++ courseFrom setup decoder (attempt + 1) retries (fun i => outcomes (i + 1)) := by
  simp only [courseFrom, List.range_succ_eq_map, List.flatMap_cons, List.flatMap_map,
    Nat.add_zero, List.append_assoc, Nat.add_assoc, Nat.add_comm 1]

/-- The first deeds of an attempt lead to its verdict. -/
private theorem announce_history (setup : Setup) (attempt : Nat) (outcome : Outcome)
    (next : Exchange (CallResult α)) (outcomes : Nat → Outcome) (now : Nat) :
    (announce setup attempt outcome next).history outcomes now
      = ((match goodStatus? outcome with
          | some status => [saying setup (responseNote setup attempt status)]
          | none => []) ++ (next.history outcomes now).1, (next.history outcomes now).2) := by
  cases told : goodStatus? outcome <;> simp [announce, told, say, saying, Exchange.history]

/-- The closed form: retries through transient failures, then the conclusion. -/
theorem attemptFrom_history (setup : Setup) (decoder : Json.Decoder α) (spare attempt : Nat)
    (outcomes : Nat → Outcome) (now : Nat) :
    (attemptFrom setup decoder spare attempt).history outcomes now
      = (courseFrom setup decoder attempt (retriesTaken spare outcomes) outcomes,
          (judge decoder (outcomes (retriesTaken spare outcomes))).result) := by
  induction spare generalizing attempt outcomes now with
  | zero =>
    -- The last attempt concludes whatever comes.
    rw [attemptFrom]
    simp only [say, Exchange.history, announce_history, retriesTaken]
    cases verdict : judge decoder (outcomes 0) with
    | success response =>
      simp [Exchange.history, courseFrom, attemptDeeds, defeatDeeds, saying, verdict,
        Verdict.result]
    | failure failure cause =>
      simp [Exchange.history, courseFrom, attemptDeeds, defeatDeeds, saying, verdict,
        Verdict.result]
  | succ spare ih =>
    rw [attemptFrom]
    simp only [say, Exchange.history, announce_history, retriesTaken]
    cases verdict : judge decoder (outcomes 0) with
    | success response =>
      have calm := not_isTransient_of_success decoder (outcomes 0) verdict
      simp [Exchange.history, courseFrom, attemptDeeds, defeatDeeds, saying, verdict,
        Verdict.result, calm]
    | failure failure cause =>
      have same := judge_isRetryable decoder (outcomes 0) verdict
      by_cases again : (outcomes 0).isTransient
      · -- The rest of the call meets the rest of the stream, one attempt further on.
        simp only [same, again, if_true, courseFrom_succ, Exchange.history, ih,
          attemptDeeds, verdict, retryDeeds, saying, List.cons_append, List.nil_append,
          List.append_assoc]
      · simp [same, again, Exchange.history, courseFrom, attemptDeeds, defeatDeeds, saying,
          verdict, Verdict.result]

end Call

end Gatehouse
