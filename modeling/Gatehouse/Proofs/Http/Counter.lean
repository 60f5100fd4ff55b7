import Gatehouse.Http.Client

/-!
# Counting attempts in 32 bits

The loop of a call with a machine word for its counter: a word that cannot be counted up ends the
loop without a result. With the attempts capped at the largest word, that never happens, and the
loop is the call.
-/
namespace Gatehouse.Call

variable {α : Type}

/-- A retry is announced and waited for before it starts; a first attempt is not. -/
def lead {β : Type} (setup : Setup) (attempt : Nat) (next : Exchange β) : Exchange β :=
  if 1 < attempt then
    say setup.requestId (retryNote setup attempt) <| .pause (setup.retry.delay (attempt - 1)) next
  else next

private theorem toNat_succ {counted : UInt32} (room : counted ≠ 0xFFFFFFFF) :
    (counted + 1).toNat = counted.toNat + 1 := by
  have top : counted.toNat ≠ 0xFFFFFFFF := fun same => room (UInt32.toNat_inj.mp same)
  have range := counted.toNat_lt
  rw [UInt32.toNat_add, UInt32.toNat_one]
  omega

/-- The loop behind `counted` attempts, with nothing for an overflow. -/
def loopFrom (setup : Setup) (decoder : Json.Decoder α) (counted : UInt32) :
    Exchange (Option (CallResult α)) :=
  if _full : counted = 0xFFFFFFFF then .finish none
  else
    let attempt := counted + 1
    lead setup attempt.toNat <|
    say setup.requestId (startNote setup attempt.toNat) <|
    .send setup.request fun outcome =>
    announce setup attempt.toNat outcome <|
    match judge decoder outcome with
    | .success response => .finish (some (.ok response))
    | .failure failure cause =>
      say setup.requestId (failureNote setup attempt.toNat failure) <|
      if setup.retry.shouldRetry failure attempt.toNat then loopFrom setup decoder attempt
      else
        say setup.requestId (defeatNote setup attempt.toNat failure) <|
        .finish (some (.error (.ofFailure failure cause)))
termination_by 0xFFFFFFFF - counted.toNat
decreasing_by
  have next := toNat_succ _full
  have range := (counted + 1).toNat_lt
  omega

private theorem announce_bind {β γ : Type} (setup : Setup) (attempt : Nat) (outcome : Outcome)
    (next : Exchange β) (f : β → Exchange γ) :
    (announce setup attempt outcome next).bind f
      = announce setup attempt outcome (next.bind f) := by
  unfold announce
  split <;> rfl

private theorem ne_full {counted : UInt32} (room : counted.toNat < 0xFFFFFFFF) :
    counted ≠ 0xFFFFFFFF := by
  rintro rfl
  exact absurd room (Nat.lt_irrefl _)

/-- With room for all attempts, the word counts what the call counts. -/
theorem loopFrom_eq_attemptFrom (setup : Setup) (decoder : Json.Decoder α) (spare : Nat)
    (counted : UInt32) (room : counted.toNat + 1 + spare = setup.retry.maxAttempts) :
    loopFrom setup decoder counted
      = lead setup (counted.toNat + 1)
          ((attemptFrom setup decoder spare (counted.toNat + 1)).bind
            fun result => .finish (some result)) := by
  have cap : setup.retry.maxAttempts ≤ 0xFFFFFFFF := Nat.min_le_right _ _
  -- On the attempts to spare: the word has room for each of them, as the cap is the largest word.
  induction spare generalizing counted with
  | zero =>
    have notFull : counted ≠ 0xFFFFFFFF := ne_full (by omega)
    rw [loopFrom, dif_neg notFull, attemptFrom]
    simp only [toNat_succ notFull, say, Exchange.bind, announce_bind]
    congr 3
    funext outcome
    congr 1
    cases judge decoder outcome with
    | success response => rfl
    | failure failure cause =>
      have last : setup.retry.shouldRetry failure (counted.toNat + 1) = false := by
        simp only [RetryPolicy.shouldRetry, shouldRetry, Bool.and_eq_false_iff,
          decide_eq_false_iff_not]
        omega
      simp only [last, Bool.false_eq_true, if_false, Exchange.bind]
  | succ spare ih =>
    have notFull : counted ≠ 0xFFFFFFFF := ne_full (by omega)
    have counts := toNat_succ notFull
    have next := ih (counted + 1) (by omega)
    rw [loopFrom, dif_neg notFull, attemptFrom]
    simp only [counts, say, Exchange.bind, announce_bind]
    congr 3
    funext outcome
    congr 1
    cases judge decoder outcome with
    | success response => rfl
    | failure failure cause =>
      -- With attempts to spare, the kind of the failure alone decides.
      have more : setup.retry.shouldRetry failure (counted.toNat + 1) = failure.isRetryable := by
        simp only [RetryPolicy.shouldRetry, shouldRetry, Bool.and_eq_right_iff_imp,
          decide_eq_true_eq]
        omega
      have retried : 1 < counted.toNat + 1 + 1 := by omega
      simp only [more, next, counts, Exchange.bind]
      split
      · simp only [lead, if_pos retried, Nat.add_sub_cancel, say, Exchange.bind]
      · rfl

/-- The word never overflows: the loop from no attempt on is the call, with its result. -/
theorem loopFrom_zero (setup : Setup) (decoder : Json.Decoder α) :
    loopFrom setup decoder 0
      = (attemptFrom setup decoder (setup.retry.maxAttempts - 1) 1).bind
          fun result => .finish (some result) := by
  have positive : 0 < setup.retry.maxAttempts := by
    simp only [RetryPolicy.maxAttempts]
    omega
  have start := loopFrom_eq_attemptFrom setup decoder (setup.retry.maxAttempts - 1) 0
    (by rw [UInt32.toNat_zero]; omega)
  simpa only [UInt32.toNat_zero, Nat.zero_add, lead, Nat.lt_irrefl, if_false] using start

end Gatehouse.Call
