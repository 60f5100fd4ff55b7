import Gatehouse.Proofs.Http.Conclusion
import Mathlib.Order.Monotone.Basic

/-!
# Pauses between attempts

A multiple of a span is exact until it stops at the longest span, and machine words are wide enough
to find it. A call pauses just between its requests: before its first retry for the base delay that
holds for the call, before its second for twice that, and so on. So the moments of its requests can
be told in advance.
-/
namespace Gatehouse

/-! ## Multiples of a span -/

namespace Span

theorem totalNanos_times (span : Span) (count : Nat) :
    (span.times count).totalNanos = min (count * span.totalNanos) longest.totalNanos := by
  have carried := Nat.div_add_mod (span.nanos * count) 1000000000
  have whole : count * span.totalNanos
      = span.seconds * count * 1000000000 + span.nanos * count := by
    rw [totalNanos, Nat.mul_add, Nat.mul_comm count, Nat.mul_comm count, Nat.mul_right_comm]
  have most : longest.totalNanos = 0xFFFFFFFFFFFFFFFF * 1000000000 + 999999999 := rfl
  rw [whole, most, times, ofParts]
  split
  next fits =>
    simp only [totalNanos]
    omega
  next =>
    rw [most]
    omega

theorem monotone_times (span : Span) : Monotone fun count => (span.times count).totalNanos := by
  intro fewer more le
  simp only [totalNanos_times]
  have multiples := Nat.mul_le_mul_right span.totalNanos le
  omega

/-- The sum of two words, if a word holds it. -/
def addWords? (a b : UInt64) : Option UInt64 :=
  if a.toNat + b.toNat < 0x10000000000000000 then some (a + b) else none

/-- The product of two words, if a word holds it. -/
def mulWords? (a b : UInt64) : Option UInt64 :=
  if a.toNat * b.toNat < 0x10000000000000000 then some (a * b) else none

/-- The multiple in words of 64 bits. The seconds may come to too many when they are multiplied, and
again when those that the nanoseconds carry are added. -/
def timesInWords (span : Span) (count : UInt32) : Span :=
  let nanos := UInt64.ofNat span.nanos * count.toUInt64
  let seconds? := (mulWords? (UInt64.ofNat span.seconds) count.toUInt64).bind fun seconds =>
    addWords? seconds (nanos / 1000000000)
  match seconds? with
  | some seconds => ofParts seconds.toNat (nanos.toNat % 1000000000) (Nat.mod_lt _ (by decide))
  | none => longest

theorem toNat_mul_words {a b : UInt64} (fits : a.toNat * b.toNat < 0x10000000000000000) :
    (a * b).toNat = a.toNat * b.toNat := by
  rw [UInt64.toNat_mul]
  exact Nat.mod_eq_of_lt fits

theorem toNat_add_words {a b : UInt64} (fits : a.toNat + b.toNat < 0x10000000000000000) :
    (a + b).toNat = a.toNat + b.toNat := by
  rw [UInt64.toNat_add]
  exact Nat.mod_eq_of_lt fits

/-- Words find every multiple, or that it is too long. -/
theorem timesInWords_eq (span : Span) (count : UInt32) :
    span.timesInWords count = span.times count.toNat := by
  have factor : count.toUInt64.toNat = count.toNat := UInt32.toNat_toUInt64 count
  have seconds := UInt64.toNat_ofNat_of_lt' span.seconds_lt
  -- The nanoseconds come to less than 10 ^ 9 * 2 ^ 32, which a word always holds.
  have nanos : (UInt64.ofNat span.nanos * count.toUInt64).toNat = span.nanos * count.toNat := by
    have small := Nat.mul_lt_mul'' span.nanos_lt count.toNat_lt
    have word := UInt64.toNat_ofNat_of_lt' (Nat.lt_trans span.nanos_lt (by decide))
    rw [toNat_mul_words, word, factor]
    rw [word, factor]
    exact Nat.lt_trans small (by decide)
  have carry : (UInt64.ofNat span.nanos * count.toUInt64 / 1000000000).toNat
      = span.nanos * count.toNat / 1000000000 := by
    rw [UInt64.toNat_div, nanos]
    rfl
  rw [timesInWords, times]
  by_cases product : span.seconds * count.toNat < 0x10000000000000000
  · have multiplied : (UInt64.ofNat span.seconds * count.toUInt64).toNat
        = span.seconds * count.toNat := by
      rw [toNat_mul_words, seconds, factor]
      rwa [seconds, factor]
    by_cases sum : span.seconds * count.toNat + span.nanos * count.toNat / 1000000000
        < 0x10000000000000000
    · have added : (UInt64.ofNat span.seconds * count.toUInt64
            + UInt64.ofNat span.nanos * count.toUInt64 / 1000000000).toNat
          = span.seconds * count.toNat + span.nanos * count.toNat / 1000000000 := by
        rw [toNat_add_words, multiplied, carry]
        rwa [multiplied, carry]
      simp only [mulWords?, addWords?, seconds, factor, if_pos product, Option.bind_some,
        multiplied, carry, if_pos sum, added, nanos]
    · simp only [mulWords?, addWords?, seconds, factor, if_pos product, Option.bind_some,
        multiplied, carry, if_neg sum, ofParts, dif_neg sum]
  · -- Too many seconds stay too many with more added to them.
    have sum : ¬ span.seconds * count.toNat + span.nanos * count.toNat / 1000000000
        < 0x10000000000000000 := by omega
    simp only [mulWords?, seconds, factor, if_neg product, Option.bind_none, ofParts, dif_neg sum]

-- The seconds fit into a word, but no longer with the one that the nanoseconds carry.
example :
    (Span.mk 0x5555555555555555 500000000 (by decide) (by decide)).timesInWords 3 = longest := by
  decide

end Span

/-! ## What a call does but talk -/

/-- Whether a deed is more than a remark. -/
def Deed.isAction : Deed → Bool
  | .said _ => false
  | .sent _ | .paused _ | .gaveWay => true

/-- The requests and pauses among deeds, in their order. -/
def actionsOf (deeds : List Deed) : List Deed := deeds.filter Deed.isAction

/-- The requests among deeds with their moments, for deeds that start at a moment. -/
def sentFrom : Nat → List Deed → List Sent
  | _, [] => []
  | now, .said _ :: rest => sentFrom now rest
  | now, .sent request :: rest => ⟨request, now⟩ :: sentFrom now rest
  | now, .paused span :: rest => sentFrom (now + span.timerMillis) rest
  | now, .gaveWay :: rest => sentFrom now rest

theorem replay_sent {World Failure : Type} (logger : Logger World Failure) (deeds : List Deed)
    (scene : Scene World) :
    (replay logger deeds scene).sent = scene.sent ++ sentFrom scene.now deeds := by
  induction deeds generalizing scene with
  | nil => simp [replay, sentFrom]
  | cons deed rest ih =>
    rw [replay, ih]
    cases deed with
    | said remark => rfl
    | sent request => simp [Deed.act, Scene.answer_sent, sentFrom]
    | paused span => rw [Deed.act, Scene.after_sent, Scene.after_now, sentFrom]
    | gaveWay => rfl

/-- Remarks take no time. -/
theorem sentFrom_actionsOf (now : Nat) (deeds : List Deed) :
    sentFrom now (actionsOf deeds) = sentFrom now deeds := by
  induction deeds generalizing now with
  | nil => rfl
  | cons deed rest ih =>
    cases deed with
    | said remark => exact ih now
    | sent request => exact congrArg (List.cons _) (ih now)
    | paused span => exact ih (now + span.timerMillis)
    | gaveWay => exact ih now

/-- A request, and again behind each of some pauses. -/
def spaced (request : Request) (pause : Nat → Span) (retries : Nat) : List Deed :=
  .sent request :: (List.range retries).flatMap fun i => [.paused (pause i), .sent request]

theorem spaced_succ (request : Request) (pause : Nat → Span) (retries : Nat) :
    spaced request pause (retries + 1)
      = .sent request :: .paused (pause 0) :: spaced request (fun i => pause (i + 1)) retries := by
  simp [spaced, List.range_succ_eq_map, List.flatMap_map]

/-- The time that the first of some pauses take, one after the other. -/
def millisOfFirst (pause : Nat → Span) : Nat → Nat
  | 0 => 0
  | count + 1 => millisOfFirst pause count + (pause count).timerMillis

theorem millisOfFirst_succ (pause : Nat → Span) (count : Nat) :
    millisOfFirst pause (count + 1)
      = (pause 0).timerMillis + millisOfFirst (fun i => pause (i + 1)) count := by
  induction count with
  | zero => rw [millisOfFirst, millisOfFirst, millisOfFirst, Nat.zero_add, Nat.add_zero]
  | succ count ih => rw [millisOfFirst, ih, millisOfFirst, Nat.add_assoc]

/-- Each request is sent when all pauses before it are over. -/
theorem sentFrom_spaced (request : Request) (pause : Nat → Span) (retries now : Nat) :
    sentFrom now (spaced request pause retries)
      = (List.range (retries + 1)).map fun i => ⟨request, now + millisOfFirst pause i⟩ := by
  induction retries generalizing pause now with
  | zero => rfl
  | succ retries ih =>
    rw [spaced_succ, sentFrom, sentFrom, ih, List.range_succ_eq_map (n := retries + 1),
      List.map_cons, List.map_map]
    congr 1
    apply List.map_congr_left
    intro i _
    -- The first pause comes before all the later requests.
    simp [millisOfFirst_succ, Nat.add_assoc]

namespace Call

variable {α : Type}

theorem actionsOf_attemptDeeds (setup : Setup) (decoder : Json.Decoder α) (attempt : Nat)
    (outcome : Outcome) :
    actionsOf (attemptDeeds setup decoder attempt outcome) = [.sent setup.request] := by
  unfold attemptDeeds
  cases goodStatus? outcome <;> cases judge decoder outcome <;> rfl

theorem actionsOf_defeatDeeds (setup : Setup) (decoder : Json.Decoder α) (attempt : Nat)
    (outcome : Outcome) : actionsOf (defeatDeeds setup decoder attempt outcome) = [] := by
  unfold defeatDeeds
  cases judge decoder outcome <;> rfl

/-- A course is its requests with a pause before each retry. -/
theorem actionsOf_courseFrom (setup : Setup) (decoder : Json.Decoder α) (attempt retries : Nat)
    (outcomes : Nat → Outcome) :
    actionsOf (courseFrom setup decoder attempt retries outcomes)
      = spaced setup.request (fun i => setup.retry.delay (attempt + i)) retries := by
  induction retries generalizing attempt outcomes with
  | zero =>
    simp only [courseFrom, List.range_zero, List.flatMap_nil, List.nil_append, actionsOf,
      List.filter_append, spaced]
    rw [← actionsOf, ← actionsOf, actionsOf_attemptDeeds, actionsOf_defeatDeeds]
    rfl
  | succ retries ih =>
    have pause : actionsOf (retryDeeds setup attempt) = [.paused (setup.retry.delay attempt)] := rfl
    rw [courseFrom_succ, actionsOf, List.filter_append, List.filter_append]
    rw [← actionsOf, ← actionsOf, ← actionsOf, actionsOf_attemptDeeds, pause, ih, spaced_succ]
    simp [Nat.add_assoc, Nat.add_comm 1]

/-- Every pause is the exact multiple of the base delay up to the longest span, also as machine
words find it, and no later pause is shorter. A call pauses just between its requests, before its
`k`-th retry for the `k`-fold of the delay that it is given, or else of its client's. On any script
with its outcomes it sends its requests when these pauses are over. -/
theorem backoff_is_linear :
    (∀ (policy : RetryPolicy) (k : Nat),
      (policy.delay k).nanos < 1000000000
        ∧ (policy.delay k).totalNanos
          = min (k * policy.baseDelay.totalNanos) (18446744073709551615 * 1000000000 + 999999999))
    ∧ (∀ policy : RetryPolicy, Monotone fun k => (policy.delay k).totalNanos)
    ∧ (∀ (policy : RetryPolicy) (k : UInt32),
        policy.baseDelay.timesInWords k = policy.delay k.toNat)
    ∧ ∀ (World Failure α : Type) (config : ClientConfig) (decoder : Json.Decoder α)
        (method url : String) (body : Option Json) (options : CallOptions)
        (ambient : Option String) (logger : Logger World Failure) (outcomes : Nat → Outcome)
        (now : Nat),
        let call := request config decoder method url body options ambient
        let told := call.history outcomes now
        let n := (requestsOf told.1).length
        let wanted := (setupOf config method url body options ambient).request
        let policy : RetryPolicy :=
          ⟨options.retries.getD config.retries, options.retryDelay.getD config.retryDelay⟩
        0 < n
          ∧ actionsOf told.1
            = .sent wanted :: (List.range (n - 1)).flatMap (fun i =>
                [.paused (policy.delay (i + 1)), .sent wanted])
          ∧ ∀ (rest : List Outcome) (sent : List Sent) (world : World) (spare : Nat), ∃ after,
              runAlone logger ⟨call, n + spare⟩
                  ⟨now, (List.range n).map outcomes ++ rest, sent, world⟩ = (some told.2, after)
                ∧ after.sent = sent ++ (List.range n).map fun i =>
                    ⟨wanted, now + millisOfFirst (fun k => policy.delay (k + 1)) i⟩ := by
  refine ⟨fun policy k => ⟨(policy.delay k).nanos_lt, policy.baseDelay.totalNanos_times k⟩,
    fun policy => policy.baseDelay.monotone_times,
    fun policy k => policy.baseDelay.timesInWords_eq k, ?_⟩
  intro World Failure α config decoder method url body options ambient logger outcomes now call told
    n wanted policy
  let setup := setupOf config method url body options ambient
  let retries := retriesTaken (setup.retry.maxAttempts - 1) outcomes
  have course : told
      = (courseFrom setup decoder 1 retries outcomes, (judge decoder (outcomes retries)).result) :=
    request_history config decoder method url body options ambient outcomes now
  have made : n = retries + 1 :=
    length_requestsOf_request config decoder method url body options ambient outcomes now
  have actions : actionsOf told.1 = spaced wanted (fun i => policy.delay (i + 1)) retries := by
    rw [course, actionsOf_courseFrom]
    simp only [Nat.add_comm 1]
    rfl
  refine ⟨by omega, ?_, ?_⟩
  · rw [actions, made]
    rfl
  · intro rest sent world spare
    refine ⟨_, runAlone_request_eq_history config decoder method url body options ambient outcomes
      now logger rest sent world spare, ?_⟩
    rw [replay_sent, ← sentFrom_actionsOf, actions, sentFrom_spaced, made]

end Call

end Gatehouse
