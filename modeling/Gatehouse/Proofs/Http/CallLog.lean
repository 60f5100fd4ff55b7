import Gatehouse.Proofs.Http.Conclusion
import Gatehouse.Proofs.Log.Noninterference

/-!
# The log of a call

A call tells its whole course. Every attempt is announced, a retry first as one; a good status is
told, and so is every failure, also that of a good status whose body cannot be read; a call that
fails tells so at its end. A logger that keeps everything offers just these records to its sinks, in
this order, under the label of the client and the request id of the call.
-/
namespace Gatehouse

/-- What is wrong with an outcome for a caller who decodes the body: the status that tells it, if
one does, and a message. -/
def Outcome.fault? {α : Type} (decoder : Json.Decoder α) : Outcome → Option (Option Nat × String)
  | .ok raw =>
    if 200 ≤ raw.status ∧ raw.status < 300 then
      match Body.decode decoder raw.body with
      | .ok _ => none
      | .error error => some (none, s!"Failed to decode response body: {error.message}")
    else some (some raw.status, s!"Request failed with status code {raw.status}")
  | .error error => some (none, error.message)

namespace Call

/-! ## The records of a call -/

/-- What stays the same in the records of a call. -/
structure Telling where
  target : String
  url : String
  retries : Nat
  requestId : Option String

namespace Telling

variable (telling : Telling)

/-- A record of the client, its moment left out. -/
def entry (level : Level) (message : String) (metadata : Json.Fields) : Record where
  level := level
  message := message
  context := some "HttpClient"
  requestId := telling.requestId
  trace := none
  metadata := metadata
  time := ⟨0, 0⟩

def retry (attempt : Nat) : Record :=
  telling.entry .debug s!"Retry attempt {attempt - 1}/{telling.retries} for {telling.target}"
    [("attempt", .ofNat attempt), ("url", .string telling.url)]

def start (attempt : Nat) : Record :=
  telling.entry .debug s!"HTTP {telling.target} (attempt {attempt})"
    [("attempt", .ofNat attempt), ("url", .string telling.url)]

def response (attempt status : Nat) : Record :=
  telling.entry .debug s!"HTTP {telling.target} responded {status}"
    [("attempt", .ofNat attempt), ("status", .ofNat status)]

def failure (attempt : Nat) (status? : Option Nat) (message : String) : Record :=
  telling.entry .warn s!"HTTP {telling.target} attempt {attempt} failed: {message}"
    [("attempt", .ofNat attempt), ("message", .string message), ("status", .ofNat? status?)]

def defeat (attempts : Nat) (status? : Option Nat) (message : String) : Record :=
  telling.entry .error s!"HTTP {telling.target} failed after {attempts} attempts: {message}"
    [("attempts", .ofNat attempts), ("message", .string message), ("status", .ofNat? status?)]

variable {α : Type} (decoder : Json.Decoder α)

/-- The record of a good status, if the outcome has one. -/
def answer (number : Nat) (outcome : Outcome) : List Record :=
  match outcome with
  | .ok raw =>
    if 200 ≤ raw.status ∧ raw.status < 300 then [telling.response number raw.status] else []
  | .error _ => []

/-- The record of a failure, if the outcome is one. -/
def complaint (number : Nat) (outcome : Outcome) : List Record :=
  match outcome.fault? decoder with
  | none => []
  | some (status?, message) => [telling.failure number status? message]

/-- The records of an attempt that is made. -/
def made (number : Nat) (outcome : Outcome) : List Record :=
  [telling.start number] ++ telling.answer number outcome
    ++ telling.complaint decoder number outcome

/-- The records of an attempt, counted from one. A retry is announced as one first. -/
def attempt (number : Nat) (outcome : Outcome) : List Record :=
  (if 1 < number then [telling.retry number] else []) ++ telling.made decoder number outcome

/-- What a call tells at its end, after so many attempts. -/
def ending (attempts : Nat) (last : Outcome) : List Record :=
  match last.fault? decoder with
  | none => []
  | some (status?, message) => [telling.defeat attempts status? message]

/-- The records of a call that makes so many attempts. -/
def call (attempts : Nat) (outcomes : Nat → Outcome) : List Record :=
  (List.range attempts).flatMap (fun i => telling.attempt decoder (i + 1) (outcomes i))
  ++ telling.ending decoder attempts (outcomes (attempts - 1))

end Telling

/-! ## What the notes of a call leave -/

/-- What the records of a call with a setup have in common. -/
def tellingOf (setup : Setup) : Telling :=
  ⟨setup.target, setup.request.url, setup.retry.retries, setup.requestId⟩

/-- The record of a remark, its moment left out. -/
def recordOf (remark : Remark) : Record :=
  Logger.recordOf (some remark.label) remark.requestId ⟨0, 0⟩ remark.note

theorem insensitive : ∀ key ∈ ["attempt", "attempts", "message", "status", "url"],
    Redaction.isSensitive key = false := by
  decide +kernel

section

variable (setup : Setup) (attempt : Nat)

theorem record_noteOf (level : Level) (message : String) (metadata : List (String × Json)) :
    recordOf ⟨label, setup.requestId, noteOf level message metadata⟩
      = (tellingOf setup).entry level message
          (Redaction.redactFields (Json.Fields.ofList metadata)) := rfl

/-- The pairs of every note stand in descending order of their keys. -/
theorem redact_descending (keys : List String) {pairs : List (String × Json)}
    (named : pairs.map (·.1) = keys)
    (descending : keys.Pairwise fun first second => second < first) :
    Redaction.redactFields (Json.Fields.ofList pairs) = Redaction.redactFields pairs.reverse := by
  subst named
  rw [Json.Fields.ofList_of_descending (List.pairwise_map.mp descending)]

theorem redact_attemptFields :
    Redaction.redactFields (Json.Fields.ofList (attemptFields setup attempt))
      = [("attempt", .ofNat attempt), ("url", .string setup.request.url)] := by
  rw [redact_descending ["url", "attempt"] rfl (by decide)]
  simp [attemptFields, Redaction.redactFields, Redaction.redact, insensitive, Json.ofNat]

theorem redact_failureFields (failure : AttemptFailure) {key : String}
    (counter : key ∈ ["attempt", "attempts"]) :
    Redaction.redactFields (Json.Fields.ofList (failureFields failure ++ [(key, .ofNat attempt)]))
      = [(key, .ofNat attempt), ("message", .string failure.message),
          ("status", .ofNat? failure.status?)] := by
  have status : Redaction.redact (.ofNat? failure.status?) = .ofNat? failure.status? := by
    cases failure.status? <;> rfl
  have descending : ["status", "message", key].Pairwise fun first second => second < first := by
    rcases List.mem_pair.mp counter with rfl | rfl <;> decide
  have counted : Redaction.isSensitive key = false := by
    rcases List.mem_pair.mp counter with rfl | rfl <;> exact insensitive _ (by simp)
  rw [redact_descending ["status", "message", key] rfl descending]
  simp [failureFields, Redaction.redactFields, Redaction.redact, insensitive, counted, Json.ofNat,
    status]

theorem record_startNote :
    recordOf ⟨label, setup.requestId, startNote setup attempt⟩
      = (tellingOf setup).start attempt := by
  rw [startNote, record_noteOf, redact_attemptFields]
  rfl

theorem record_retryNote :
    recordOf ⟨label, setup.requestId, retryNote setup attempt⟩
      = (tellingOf setup).retry attempt := by
  rw [retryNote, record_noteOf, redact_attemptFields]
  rfl

theorem record_responseNote (status : Nat) :
    recordOf ⟨label, setup.requestId, responseNote setup attempt status⟩
      = (tellingOf setup).response attempt status := by
  rw [responseNote, record_noteOf, redact_descending ["status", "attempt"] rfl (by decide)]
  simp [Telling.response, tellingOf, Redaction.redactFields, Redaction.redact, insensitive,
    Json.ofNat]

theorem record_failureNote (failure : AttemptFailure) :
    recordOf ⟨label, setup.requestId, failureNote setup attempt failure⟩
      = (tellingOf setup).failure attempt failure.status? failure.message := by
  rw [failureNote, record_noteOf, redact_failureFields attempt failure (by simp)]
  rfl

theorem record_defeatNote (failure : AttemptFailure) :
    recordOf ⟨label, setup.requestId, defeatNote setup attempt failure⟩
      = (tellingOf setup).defeat attempt failure.status? failure.message := by
  rw [defeatNote, record_noteOf, redact_failureFields attempt failure (by simp)]
  rfl

end

/-! ## The records of deeds -/

/-- The records that deeds leave, their moments left out. -/
def recordsOf (deeds : List Deed) : List Record :=
  deeds.filterMap fun deed =>
    match deed with
    | .said remark => some (recordOf remark)
    | .sent _ | .paused _ | .gaveWay => none

theorem recordsOf_append (early late : List Deed) :
    recordsOf (early ++ late) = recordsOf early ++ recordsOf late :=
  List.filterMap_append

variable {α : Type} (decoder : Json.Decoder α)

/-- What is wrong with an outcome is what a call makes of it. -/
theorem fault?_eq (outcome : Outcome) :
    outcome.fault? decoder
      = match judge decoder outcome with
        | .success _ => none
        | .failure failure _ => some (failure.status?, failure.message) := by
  cases outcome with
  | ok raw =>
    by_cases good : Status.isSuccess raw.status
    · simp only [Outcome.fault?, if_pos (isSuccess_iff.mp good), judge, if_pos good, judgeBody]
      cases Body.decode decoder raw.body <;> rfl
    · have bad : ¬ (200 ≤ raw.status ∧ raw.status < 300) := fun range =>
        good (isSuccess_iff.mpr range)
      simp only [Outcome.fault?, if_neg bad, judge, if_neg good]
      rfl
  | error error => cases error <;> rfl

section

variable (setup : Setup) (number : Nat)

theorem recordsOf_saying (note : Note) (deeds : List Deed) :
    recordsOf (saying setup note :: deeds)
      = recordOf ⟨label, setup.requestId, note⟩ :: recordsOf deeds := rfl

theorem recordsOf_attemptDeeds (outcome : Outcome) :
    recordsOf (attemptDeeds setup decoder number outcome)
      = (tellingOf setup).made decoder number outcome := by
  have start : recordsOf [saying setup (startNote setup number), .sent setup.request]
      = [(tellingOf setup).start number] := by
    rw [recordsOf_saying, record_startNote]
    rfl
  rw [attemptDeeds, recordsOf_append, recordsOf_append, start, Telling.made]
  congr 1
  · congr 1
    cases outcome with
    | ok raw =>
      by_cases good : Status.isSuccess raw.status
      · simp only [goodStatus?, Telling.answer, if_pos good, if_pos (isSuccess_iff.mp good)]
        rw [recordsOf_saying, record_responseNote]
        rfl
      · have bad : ¬ (200 ≤ raw.status ∧ raw.status < 300) := fun range =>
          good (isSuccess_iff.mpr range)
        simp only [goodStatus?, Telling.answer, if_neg good, if_neg bad]
        rfl
    | error error => rfl
  · rw [Telling.complaint, fault?_eq]
    cases judge decoder outcome with
    | success response => rfl
    | failure failure cause =>
      simp only [recordsOf_saying, record_failureNote]
      rfl

theorem recordsOf_retryDeeds :
    recordsOf (retryDeeds setup number) = [(tellingOf setup).retry (number + 1)] := by
  rw [retryDeeds, recordsOf_saying, record_retryNote]
  rfl

theorem recordsOf_defeatDeeds (outcome : Outcome) :
    recordsOf (defeatDeeds setup decoder number outcome)
      = (tellingOf setup).ending decoder number outcome := by
  rw [defeatDeeds, Telling.ending, fault?_eq]
  cases judge decoder outcome with
  | success response => rfl
  | failure failure cause =>
    simp only [recordsOf_saying, record_defeatNote]
    rfl

/-- A course leaves the records of its attempts, each retry with its announcement in front. -/
theorem recordsOf_courseFrom (retries : Nat) (outcomes : Nat → Outcome) :
    recordsOf (courseFrom setup decoder 1 retries outcomes)
      = (tellingOf setup).call decoder (retries + 1) outcomes := by
  -- A retry is announced at the end of the attempt before it.
  have attempts : (List.range retries).flatMap (fun i =>
        recordsOf (attemptDeeds setup decoder (1 + i) (outcomes i) ++ retryDeeds setup (1 + i)))
      ++ (tellingOf setup).made decoder (1 + retries) (outcomes retries)
      = (List.range (retries + 1)).flatMap fun i =>
          (tellingOf setup).attempt decoder (i + 1) (outcomes i) := by
    induction retries with
    | zero => simp [Telling.attempt]
    | succ retries ih =>
      rw [List.range_succ, List.flatMap_append, List.range_succ, List.flatMap_append, ← ih]
      simp [recordsOf_append, recordsOf_attemptDeeds, recordsOf_retryDeeds, Telling.attempt,
        Nat.add_comm 1]
  have last : outcomes (retries + 1 - 1) = outcomes retries := rfl
  rw [courseFrom, recordsOf_append, recordsOf_append, recordsOf_attemptDeeds,
    recordsOf_defeatDeeds, Telling.call, last, ← attempts, Nat.add_comm 1]
  simp only [recordsOf, List.filterMap_flatMap]

end

/-! ## Watched runs -/

section

variable {World Failure : Type}

/-- The scene without what is seen of it. -/
def unwatched (scene : Scene (World × List (Nat × Record))) : Scene World :=
  ⟨scene.now, scene.script, scene.sent, scene.log.1⟩

theorem offer_watched (logger : Logger World Failure) (record : Record)
    (log : World × List (Nat × Record)) :
    Logger.offer logger.watched.sinks record log
      = (Logger.offer logger.sinks record log.1,
          log.2 ++ (List.range logger.sinks.length).map (·, record)) := by
  rw [List.range_eq_range']
  exact Logger.offer_watch logger.sinks record log.1 log.2 0

theorem act_watched (logger : Logger World Failure) (deed : Deed)
    (scene : Scene (World × List (Nat × Record))) :
    unwatched (deed.act logger.watched scene) = deed.act logger (unwatched scene) := by
  cases deed with
  | said remark =>
    cases counts : logger.isEnabled remark.note.level with
    | true =>
      have watched : logger.watched.isEnabled remark.note.level = true := counts
      rw [Deed.act, Deed.act, Scene.hear_of_enabled watched, Scene.hear_of_enabled counts,
        unwatched, offer_watched]
      rfl
    | false =>
      have watched : logger.watched.isEnabled remark.note.level = false := counts
      rw [Deed.act, Deed.act, Scene.hear_of_disabled watched, Scene.hear_of_disabled counts]
  | sent request => cases scene with | mk now script sent log => cases script <;> rfl
  | paused span => cases scene; rfl
  | gaveWay => rfl

/-- Watching changes nothing that sinks do. -/
theorem replay_watched (logger : Logger World Failure) (deeds : List Deed)
    (scene : Scene (World × List (Nat × Record))) :
    unwatched (replay logger.watched deeds scene) = replay logger deeds (unwatched scene) := by
  induction deeds generalizing scene with
  | nil => rfl
  | cons deed rest ih => rw [replay, replay, ih, act_watched]

/-- A logger offers the records of a replay that it keeps to all its sinks, one after the other. -/
theorem replay_offers_kept (logger : Logger World Failure) (deeds : List Deed)
    (scene : Scene (World × List (Nat × Record))) :
    (replay logger.watched deeds scene).log.2.map (fun offer => (offer.1, offer.2.timeless))
      = scene.log.2.map (fun offer => (offer.1, offer.2.timeless))
        ++ ((recordsOf deeds).filter (logger.isEnabled ·.level)).flatMap fun record =>
            (List.range logger.sinks.length).map (·, record) := by
  induction deeds generalizing scene with
  | nil => simp [replay, recordsOf]
  | cons deed rest ih =>
    rw [replay, ih]
    cases deed with
    | said remark =>
      have told : recordsOf (.said remark :: rest) = recordOf remark :: recordsOf rest := rfl
      have own : (scene.recordOf remark).timeless = recordOf remark := rfl
      cases counts : logger.isEnabled remark.note.level with
      | true =>
        have watched : logger.watched.isEnabled remark.note.level = true := counts
        have kept : logger.isEnabled (recordOf remark).level = true := counts
        rw [Deed.act, Scene.hear_of_enabled watched, told, List.filter_cons, if_pos kept,
          List.flatMap_cons, ← List.append_assoc, offer_watched]
        simp only [List.map_append, List.map_map, Function.comp_def, own]
      | false =>
        have watched : logger.watched.isEnabled remark.note.level = false := counts
        have dropped : ¬ logger.isEnabled (recordOf remark).level = true :=
          Bool.eq_false_iff.mp counts
        rw [Deed.act, Scene.hear_of_disabled watched, told, List.filter_cons, if_neg dropped]
    | sent request =>
      rw [Deed.act, Scene.answer_log]
      rfl
    | paused span =>
      rw [Deed.act, Scene.after_log]
      rfl
    | gaveWay => rfl

/-- A logger that keeps everything offers every record of a replay to all its sinks. -/
theorem replay_offers (sinks : List (Sink World Failure)) (context : Option String)
    (deeds : List Deed) (scene : Scene (World × List (Nat × Record))) :
    let logger : Logger World Failure := ⟨.verbose, sinks, context⟩
    (replay logger.watched deeds scene).log.2.map (fun offer => (offer.1, offer.2.timeless))
      = scene.log.2.map (fun offer => (offer.1, offer.2.timeless))
        ++ (recordsOf deeds).flatMap fun record => (List.range sinks.length).map (·, record) := by
  intro logger
  have all : (recordsOf deeds).filter (logger.isEnabled ·.level) = recordsOf deeds := by
    refine List.filter_eq_self.mpr fun record _ => ?_
    cases record.level <;> rfl
  rw [replay_offers_kept, all]

end

/-! ## Counts -/

/-- Whether a record announces a retry. -/
def announcesRetry (record : Record) : Bool :=
  "Retry attempt ".toList.isPrefixOf record.message.toList

theorem announcesRetry_retry (telling : Telling) (number : Nat) :
    announcesRetry (telling.retry number) = true := by
  rw [announcesRetry, List.isPrefixOf_iff_prefix]
  simp only [Telling.retry, Telling.entry, String.toList_append, List.append_assoc]
  exact List.prefix_append _ _

theorem announcesRetry_of_http {record : Record}
    (http : "HTTP ".toList <+: record.message.toList) : announcesRetry record = false := by
  obtain ⟨rest, message⟩ := http
  rw [announcesRetry, ← message]
  rfl

/-- How much the kinds of records count that a call may tell; the others count for nothing. -/
structure Counts (telling : Telling) (counted : Record → Bool) (retry failure defeat : Nat) :
    Prop where
  start : ∀ number, counted (telling.start number) = false
  response : ∀ number status, counted (telling.response number status) = false
  retry : ∀ number, (if counted (telling.retry number) then 1 else 0) = retry
  failure : ∀ number status? message,
    (if counted (telling.failure number status? message) then 1 else 0) = failure
  defeat : ∀ number status? message,
    (if counted (telling.defeat number status? message) then 1 else 0) = defeat

theorem counts_warnings (telling : Telling) : Counts telling (·.level == .warn) 0 1 0 := by
  constructor <;> intros <;> rfl

theorem counts_errors (telling : Telling) : Counts telling (·.level == .error) 0 0 1 := by
  constructor <;> intros <;> rfl

theorem counts_retries (telling : Telling) : Counts telling announcesRetry 1 0 0 := by
  constructor
  case retry =>
    intro number
    rw [if_pos (announcesRetry_retry telling number)]
  -- The messages of the others begin alike, and not as the announcement of a retry does.
  all_goals intros
  all_goals
    rw [announcesRetry_of_http (by
      simp only [Telling.start, Telling.response, Telling.failure, Telling.defeat, Telling.entry,
        String.toList_append, List.append_assoc]
      exact List.prefix_append _ _)]
  all_goals rfl

namespace Counts

variable {telling : Telling} {counted : Record → Bool} {retry failure defeat : Nat}
  (counts : Counts telling counted retry failure defeat)

include counts

theorem answer (number : Nat) (outcome : Outcome) :
    (telling.answer number outcome).countP counted = 0 := by
  cases outcome with
  | ok raw =>
    simp only [Telling.answer]
    split <;> simp [counts.response]
  | error error => rfl

theorem complaint (number : Nat) (outcome : Outcome) :
    (telling.complaint decoder number outcome).countP counted
      = if (outcome.fault? decoder).isSome then failure else 0 := by
  rw [Telling.complaint]
  cases fault : outcome.fault? decoder with
  | none => rfl
  | some found =>
    obtain ⟨status?, message⟩ := found
    simp [List.countP_cons, counts.failure]

theorem made (number : Nat) (outcome : Outcome) :
    (telling.made decoder number outcome).countP counted
      = if (outcome.fault? decoder).isSome then failure else 0 := by
  rw [Telling.made, List.countP_append, List.countP_append, counts.answer, counts.complaint]
  simp [counts.start]

theorem ending (attempts : Nat) (last : Outcome) :
    (telling.ending decoder attempts last).countP counted
      = if (last.fault? decoder).isSome then defeat else 0 := by
  rw [Telling.ending]
  cases fault : last.fault? decoder with
  | none => rfl
  | some found =>
    obtain ⟨status?, message⟩ := found
    simp [List.countP_cons, counts.defeat]

/-- The attempts of a call that all fail but for the last one, each but the first a retry. -/
theorem call (retries : Nat) (outcomes : Nat → Outcome)
    (failing : ∀ i < retries, ((outcomes i).fault? decoder).isSome) :
    (telling.call decoder (retries + 1) outcomes).countP counted
      = retries * (retry + failure)
        + if ((outcomes retries).fault? decoder).isSome then failure + defeat else 0 := by
  have attempts : ((List.range (retries + 1)).flatMap fun i =>
        telling.attempt decoder (i + 1) (outcomes i)).countP counted
      = retries * (retry + failure)
        + if ((outcomes retries).fault? decoder).isSome then failure else 0 := by
    induction retries with
    | zero => simp [Telling.attempt, counts.made]
    | succ retries ih =>
      have before := ih fun i inside => failing i (Nat.lt_succ_of_lt inside)
      rw [if_pos (failing retries (Nat.lt_succ_self _))] at before
      have next : (telling.attempt decoder (retries + 1 + 1) (outcomes (retries + 1))).countP counted
          = retry + if ((outcomes (retries + 1)).fault? decoder).isSome then failure else 0 := by
        rw [Telling.attempt, if_pos (by omega), List.countP_append, counts.made,
          List.countP_singleton, counts.retry]
      rw [List.range_succ, List.flatMap_append, List.flatMap_singleton, List.countP_append, before,
        next, Nat.succ_mul]
      omega
  rw [Telling.call, List.countP_append, attempts, Nat.add_sub_cancel, counts.ending]
  split <;> omega

end Counts

/-! ## The whole call -/

theorem fault?_isSome_of_isTransient {outcome : Outcome} (transient : outcome.isTransient) :
    (outcome.fault? decoder).isSome := by
  rw [fault?_eq]
  cases verdict : judge decoder outcome with
  | success response =>
    rw [not_isTransient_of_success decoder outcome verdict] at transient
    cases transient
  | failure failure cause => rfl

theorem fault?_isSome_iff (outcome : Outcome) :
    (outcome.fault? decoder).isSome = !(judge decoder outcome).result.isOk := by
  rw [fault?_eq]
  cases judge decoder outcome <;> rfl

/-- A call with a logger that keeps everything, on any stream of outcomes: if it makes `n` attempts,
each sink is offered the records of those attempts in their order and of its end, and nothing else;
to watch that changes nothing. All but the last attempt fail, and the last one does exactly if the
call does. -/
theorem request_tells {World Failure : Type} (config : ClientConfig) (method url : String)
    (body : Option Json) (options : CallOptions) (ambient : Option String)
    (sinks : List (Sink World Failure)) (context : Option String) (outcomes : Nat → Outcome)
    (now : Nat) :
    let task := request config decoder method url body options ambient
    let logger : Logger World Failure := ⟨.verbose, sinks, context⟩
    let whole := resolveUrl (options.baseUrl.or config.baseUrl) url
    let telling : Telling :=
      ⟨s!"{method} {whole}", whole, options.retries.getD config.retries, ambient⟩
    ∃ (n : Nat) (result : CallResult α),
      let told := telling.call decoder n outcomes
      0 < n
      ∧ (∀ (rest : List Outcome) (sent : List Sent) (world : World) (spare : Nat), ∃ after,
          runAlone logger.watched ⟨task, n + spare⟩
              ⟨now, (List.range n).map outcomes ++ rest, sent, (world, [])⟩ = (some result, after)
            ∧ runAlone logger ⟨task, n + spare⟩
                ⟨now, (List.range n).map outcomes ++ rest, sent, world⟩
              = (some result, unwatched after)
            ∧ after.sent.length = sent.length + n
            ∧ after.log.2.map (fun offer => (offer.1, offer.2.timeless))
              = told.flatMap fun record => (List.range sinks.length).map (·, record))
      ∧ (∀ i, i + 1 < n → ((outcomes i).fault? decoder).isSome)
      ∧ ((outcomes (n - 1)).fault? decoder).isSome = !result.isOk
      ∧ told.countP (·.level == .warn) = (if result.isOk then n - 1 else n)
      ∧ told.countP (·.level == .error) = (if result.isOk then 0 else 1)
      ∧ told.countP announcesRetry = n - 1 := by
  intro task logger whole telling
  let setup := setupOf config method url body options ambient
  let retries := retriesTaken (setup.retry.maxAttempts - 1) outcomes
  have failing : ∀ i < retries, ((outcomes i).fault? decoder).isSome := fun i inside =>
    fault?_isSome_of_isTransient decoder (transient_before _ outcomes i inside)
  refine ⟨retries + 1, (judge decoder (outcomes retries)).result, Nat.succ_pos _, ?_, ?_,
    fault?_isSome_iff decoder _, ?_, ?_, ?_⟩
  · intro rest sent world spare
    have watched := runAlone_request_eq_replay config decoder method url body options ambient
      outcomes now logger.watched rest sent (world, []) spare
    have run := runAlone_request_eq_replay config decoder method url body options ambient outcomes
      now logger rest sent world spare
    refine ⟨_, watched, ?_, ?_, ?_⟩
    · rw [replay_watched]
      exact run
    · have requests := congrArg List.length (replay_requests logger.watched
        (courseFrom setup decoder 1 retries outcomes)
        ⟨now, (List.range (retries + 1)).map outcomes ++ rest, sent, (world, [])⟩)
      simpa [requestsOf_courseFrom] using requests
    · have offered := replay_offers sinks context (courseFrom setup decoder 1 retries outcomes)
        ⟨now, (List.range (retries + 1)).map outcomes ++ rest, sent, (world, [])⟩
      rw [recordsOf_courseFrom] at offered
      exact offered
  · exact fun i inside => failing i (Nat.lt_of_succ_lt_succ inside)
  · rw [(counts_warnings telling).call decoder retries outcomes failing, fault?_isSome_iff]
    cases (judge decoder (outcomes retries)).result.isOk <;> simp
  · rw [(counts_errors telling).call decoder retries outcomes failing, fault?_isSome_iff]
    cases (judge decoder (outcomes retries)).result.isOk <;> simp
  · rw [(counts_retries telling).call decoder retries outcomes failing]
    simp

-- a good status is told before the body turns out to be unreadable
example :
    let telling : Telling := ⟨"GET /levels", "/levels", 3, none⟩
    let outcome : Outcome := .ok ⟨200, "OK", [], bytesOf "[]"⟩
    (telling.call Level.decoder 1 fun _ => outcome).map (·.message)
      = ["HTTP GET /levels (attempt 1)", "HTTP GET /levels responded 200",
          "HTTP GET /levels attempt 1 failed: Failed to decode response body: "
            ++ "expected value at line 1 column 1",
          "HTTP GET /levels failed after 1 attempts: Failed to decode response body: "
            ++ "expected value at line 1 column 1"] := by
  decide +kernel

end Call

end Gatehouse
