import Gatehouse.Proofs.Http.Bodies
import Gatehouse.Proofs.Http.CallLog

/-!
# What the log of a call leaves out

The log of a call that takes any JSON shows none of what the call carries. Of an outcome it tells
the status or the error; of the call itself its target, its retries and its request id. So two calls
that agree in these leave the same records, however much they differ in their headers, parameters,
bodies and limits and in what comes back.
-/
namespace Gatehouse

/-- Outcomes that a log may not tell apart: responses of one status, or the same error. -/
inductive Outcome.Alike : Outcome → Outcome → Prop
  | response {raw other : RawResponse} (status : raw.status = other.status) :
      Alike (.ok raw) (.ok other)
  | failure (error : TransportError) : Alike (.error error) (.error error)

namespace Outcome.Alike

variable {outcome other : Outcome} (alike : outcome.Alike other)

include alike

theorem isTransient_eq : outcome.isTransient = other.isTransient := by
  cases alike with
  | response status => simp only [isTransient, status]
  | failure error => rfl

/-- The body of a response is never at fault where any JSON is taken. -/
theorem fault?_eq : outcome.fault? Json.Decoder.json = other.fault? Json.Decoder.json := by
  cases alike with
  | @response raw other status =>
    simp only [fault?, status, Body.decode_json]
  | failure error => rfl

end Outcome.Alike

namespace Call

theorem retriesTaken_congr (spare : Nat) {outcomes others : Nat → Outcome}
    (alike : ∀ i, (outcomes i).Alike (others i)) :
    retriesTaken spare outcomes = retriesTaken spare others := by
  induction spare generalizing outcomes others with
  | zero => rfl
  | succ spare ih =>
    rw [retriesTaken, retriesTaken, (alike 0).isTransient_eq, ih fun i => alike (i + 1)]

namespace Telling

variable (telling : Telling) {outcome other : Outcome} (alike : outcome.Alike other)

include alike

theorem answer_congr (number : Nat) :
    telling.answer number outcome = telling.answer number other := by
  cases alike with
  | response status => simp only [answer, status]
  | failure error => rfl

theorem attempt_congr (number : Nat) :
    telling.attempt .json number outcome = telling.attempt .json number other := by
  simp only [attempt, made, complaint, answer_congr telling alike, alike.fault?_eq]

theorem ending_congr (attempts : Nat) :
    telling.ending .json attempts outcome = telling.ending .json attempts other := by
  simp only [ending, alike.fault?_eq]

omit alike

theorem call_congr (attempts : Nat) {outcomes others : Nat → Outcome}
    (alike : ∀ i, (outcomes i).Alike (others i)) :
    telling.call .json attempts outcomes = telling.call .json attempts others := by
  simp only [call, fun i => attempt_congr telling (alike i), ending_congr telling (alike _)]

end Telling

/-! ## Runs -/

section

variable {World Failure : Type} (logger : Logger World Failure)

/-- A scene whose sinks are watched from now on. -/
def watchedScene (scene : Scene World) : Scene (World × List (Nat × Record)) :=
  ⟨scene.now, scene.script, scene.sent, (scene.log, [])⟩

/-- A run of a task that ends after so many requests, and in which the sinks are offered these
records, their moments left out. To watch the sinks changes nothing. -/
structure Reports {Result : Type} (task : BoundedTask Result) (scene : Scene World)
    (attempts : Nat) (told : List (Nat × Record)) : Prop where
  ends : (runAlone logger task scene).1.isSome
  requests : (runAlone logger task scene).2.sent.length = scene.sent.length + attempts
  unseen : ((runAlone logger.watched task (watchedScene scene)).1,
      unwatched (runAlone logger.watched task (watchedScene scene)).2) = runAlone logger task scene
  told : (runAlone logger.watched task (watchedScene scene)).2.log.2.map
      (fun offer => (offer.1, offer.2.timeless)) = told

/-- What sinks are offered of the records of a call. -/
def offersOf (telling : Telling) (attempts : Nat) (outcomes : Nat → Outcome) :
    List (Nat × Record) :=
  ((telling.call .json attempts outcomes).filter (logger.isEnabled ·.level)).flatMap fun record =>
    (List.range logger.sinks.length).map (·, record)

/-- A call that takes any JSON reports its records, as far as the logger keeps them. -/
theorem request_reports (config : ClientConfig) (method url : String) (body : Option Json)
    (options : CallOptions) (ambient : Option String) (outcomes : Nat → Outcome) (now : Nat)
    (rest : List Outcome) (sent : List Sent) (world : World) (spare : Nat) :
    let setup := setupOf config method url body options ambient
    let attempts := retriesTaken (setup.retry.maxAttempts - 1) outcomes + 1
    Reports logger ⟨request config .json method url body options ambient, attempts + spare⟩
      ⟨now, (List.range attempts).map outcomes ++ rest, sent, world⟩ attempts
      (offersOf logger (tellingOf setup) attempts outcomes) := by
  intro setup attempts
  let scene : Scene World := ⟨now, (List.range attempts).map outcomes ++ rest, sent, world⟩
  let retries := retriesTaken (setup.retry.maxAttempts - 1) outcomes
  let course := courseFrom setup .json 1 retries outcomes
  have run := runAlone_request_eq_replay config .json method url body options ambient outcomes now
    logger rest sent world spare
  have watched := runAlone_request_eq_replay config .json method url body options ambient outcomes
    now logger.watched rest sent (world, []) spare
  -- With and without the watch the run is a replay of one course; only the log of it differs.
  constructor
  case ends => rw [run]; rfl
  case requests =>
    have requests := congrArg List.length (replay_requests logger course scene)
    rw [run]
    simpa [course, requestsOf_courseFrom] using requests
  case unseen =>
    rw [watchedScene, watched, run, replay_watched]
    rfl
  case told =>
    have offered := replay_offers_kept logger course (watchedScene scene)
    rw [recordsOf_courseFrom] at offered
    rw [watchedScene, watched]
    exact offered

end

/-- Two calls that take any JSON, with the same method, resolved URL, retries and request id, on
outcomes that agree in their statuses and errors: they make the same number of attempts, and a
logger offers its sinks the same records in both, but for the moments, whatever its level and
whatever its sinks do with them. The calls may differ in all else: headers, parameters, body, limit
and pauses, and the bodies, headers and status texts that come back. -/
theorem log_shows_no_payload {World Failure : Type} (logger : Logger World Failure)
    (config twin : ClientConfig) (method url path : String) (body load : Option Json)
    (options choices : CallOptions) (ambient : Option String) (outcomes others : Nat → Outcome)
    (resolved : resolveUrl (options.baseUrl.or config.baseUrl) url
      = resolveUrl (choices.baseUrl.or twin.baseUrl) path)
    (retries : options.retries.getD config.retries = choices.retries.getD twin.retries)
    (alike : ∀ i, (outcomes i).Alike (others i)) :
    let call : Exchange (CallResult Json) :=
      request config .json method url body options ambient
    let other : Exchange (CallResult Json) :=
      request twin .json method path load choices ambient
    ∃ n told, 0 < n
      ∧ (∀ (now : Nat) (rest : List Outcome) (sent : List Sent) (world : World) (spare : Nat),
          Reports logger ⟨call, n + spare⟩
            ⟨now, (List.range n).map outcomes ++ rest, sent, world⟩ n told)
      ∧ ∀ (now : Nat) (rest : List Outcome) (sent : List Sent) (world : World) (spare : Nat),
          Reports logger ⟨other, n + spare⟩
            ⟨now, (List.range n).map others ++ rest, sent, world⟩ n told := by
  intro call other
  let setup := setupOf config method url body options ambient
  let setupOther := setupOf twin method path load choices ambient
  have telling : tellingOf setup = tellingOf setupOther := by
    have wholeUrl : setup.request.url = setupOther.request.url := resolved
    have budget : setup.retry.retries = setupOther.retry.retries := retries
    have target : setup.target = setupOther.target := by
      rw [Setup.target, Setup.target, wholeUrl]
      rfl
    simp only [tellingOf, wholeUrl, budget, target]
    rfl
  have attempts : retriesTaken (setup.retry.maxAttempts - 1) outcomes
      = retriesTaken (setupOther.retry.maxAttempts - 1) others := by
    have most : setup.retry.maxAttempts = setupOther.retry.maxAttempts :=
      congrArg (fun retries => min (retries + 1) 0xFFFFFFFF) retries
    rw [most]
    exact retriesTaken_congr _ alike
  -- Both calls stop at the same attempt and tell of it in the same words.
  let n := retriesTaken (setup.retry.maxAttempts - 1) outcomes + 1
  refine ⟨n, offersOf logger (tellingOf setup) n outcomes, Nat.succ_pos _, ?_, ?_⟩
  · exact request_reports logger config method url body options ambient outcomes
  · have reports := request_reports logger twin method path load choices ambient others
    have told : offersOf logger (tellingOf setup) n outcomes
        = offersOf logger (tellingOf setupOther) n others := by
      rw [offersOf, offersOf, Telling.call_congr _ _ alike, telling]
    rw [told]
    simp only [n, attempts]
    exact reports

/-- A token and a password go out, and come back with a refusal that passes: neither shows. -/
theorem log_shows_no_payload_of_passwords :
    let options (token : String) : CallOptions :=
      { CallOptions.none with headers := [("Authorization", token)] }
    let outcomes (answer : String) (i : Nat) : Outcome :=
      .ok ⟨if i = 0 then 503 else 200, answer, [("x-answer", .text answer)], bytesOf answer⟩
    let call (token password : String) : Exchange (CallResult Json) :=
      request .usual .json "POST" "/login" (some (.string password)) (options token) (some "id-1")
    let logger : Logger Captures Unit := ⟨.debug, [.refuse, .capture 0], none⟩
    ∃ n told, 0 < n
      ∧ Reports logger ⟨call "one" "secret", n⟩ ⟨0, (List.range n).map (outcomes "kept"), [], [[]]⟩
          n told
      ∧ Reports logger ⟨call "two" "hidden", n⟩ ⟨9, (List.range n).map (outcomes "\"5\""), [], [[]]⟩
          n told := by
  intro options outcomes call logger
  have alike : ∀ i, (outcomes "kept" i).Alike (outcomes "\"5\"" i) := fun i => .response rfl
  obtain ⟨n, told, positive, reports, others⟩ := log_shows_no_payload logger .usual .usual "POST"
    "/login" "/login" (some (.string "secret")) (some (.string "hidden")) (options "one")
    (options "two") (some "id-1") (outcomes "kept") (outcomes "\"5\"") rfl rfl alike
  have report := reports 0 [] [] [[]] 0
  have other := others 9 [] [] [[]] 0
  rw [List.append_nil] at report other
  exact ⟨n, told, positive, report, other⟩

end Call

end Gatehouse
