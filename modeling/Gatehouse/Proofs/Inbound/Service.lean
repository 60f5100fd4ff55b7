import Gatehouse.Proofs.Http.History
import Gatehouse.Proofs.Inbound.RequestId
import Gatehouse.Proofs.Inbound.Routines
import Gatehouse.Proofs.Json.RoundTrip
import Gatehouse.Proofs.Log.Redaction

/-!
# Requests are served under one id

A service picks an id when it is asked, and that id is what its handler finds in the request and
around itself, what the caller finds in the reply, and what the record of the completed request
bears. The deeds of the service are those of its handler and then, if the handler replied, that
record.
-/
namespace Gatehouse.Inbound

variable {World SinkFailure Failure Body : Type}

/-- The id that a service uses: the one in the first value that its caller sent, or a fresh one. -/
inductive Uses (headers : HeaderMap) (fresh : String) : String → Prop
  | sent {value : List UInt8} {id : String} :
      headers.first? Headers.requestId = some value → IsIdOf id value → Uses headers fresh id
  | fresh :
      (∀ value id, headers.first? Headers.requestId = some value → ¬IsIdOf id value) →
      Uses headers fresh fresh

theorem uses_sentId? (headers : HeaderMap) (fresh : String) :
    Uses headers fresh ((sentId? headers).getD fresh) := by
  cases sent : sentId? headers with
  | some id =>
    obtain ⟨value, first, holds⟩ := (sentId?_eq_some_iff headers id).mp sent
    exact .sent first holds
  | none =>
    refine .fresh fun value id first holds => ?_
    have taken := (sentId?_eq_some_iff headers id).mpr ⟨value, first, holds⟩
    rw [sent] at taken
    cases taken

theorem Uses.eq {headers : HeaderMap} {fresh id : String} (uses : Uses headers fresh id) :
    id = (sentId? headers).getD fresh := by
  cases uses with
  | sent first holds =>
    rw [(sentId?_eq_some_iff headers id).mpr ⟨_, first, holds⟩, Option.getD_some]
  | fresh none =>
    have unsent : sentId? headers = Option.none := by
      refine Option.eq_none_iff_forall_ne_some.mpr fun other taken => ?_
      obtain ⟨value, first, holds⟩ := (sentId?_eq_some_iff headers other).mp taken
      exact none value other first holds
    rw [unsent, Option.getD_none]

theorem Uses.isClean {headers : HeaderMap} {fresh id : String} (uses : Uses headers fresh id)
    (random : isRandomUuid fresh = true) : IsClean id := by
  cases uses with
  | sent first holds => exact holds.1
  | fresh none => exact isClean_of_isRandomUuid random

/-- Headers with one request id, and otherwise those there were. -/
structure IsStamped (id : String) (before after : HeaderMap) : Prop where
  id : after.valuesOf Headers.requestId = [bytesOf id]
  others : after.without Headers.requestId = before.without Headers.requestId

theorem isStamped_stamp {id : String} (clean : IsClean id) (headers : HeaderMap) :
    IsStamped id headers (stamp id headers) := by
  rw [stamp_of_isClean clean]
  exact ⟨HeaderMap.valuesOf_replace _ _ _, HeaderMap.without_replace _ _ _⟩

/-! ## What a service does -/

/-- What a service tells of a completed request, if it tells of them. -/
def completion (logs : Bool) (id : String) (request : Inquiry) (status elapsed : Nat) :
    List Deed :=
  if logs then [.said ⟨label, some id, completionNote request status elapsed⟩] else []

/-- The deeds of a service are those of its handler, and then it tells of a reply. -/
theorem service_history (logs : Bool) (fresh : String) (inner : Handler Failure Body)
    (outer : Option String) (request : Inquiry) (outcomes : Nat → Outcome) (now : Nat) :
    let id := (sentId? request.headers).getD fresh
    let handled :=
      (inner (some id) { request with headers := stamp id request.headers }).history outcomes now
    ∃ elapsed, (withRequestId logs fresh inner outer request).history outcomes now
      = match handled.2 with
        | .error failure => (handled.1, .error failure)
        | .ok reply =>
          (handled.1 ++ completion logs id request reply.status elapsed,
            .ok { reply with headers := stamp id reply.headers }) := by
  intro id handled
  obtain ⟨later, moment, same⟩ := Exchange.history_bind
    (inner (some id) { request with headers := stamp id request.headers })
    (fun result =>
      match result with
      | .error failure => .finish (.error failure)
      | .ok reply => complete logs id request now reply) outcomes now
  refine ⟨moment - now, same.trans ?_⟩
  cases result : handled.2 with
  | error failure => simp [handled, Exchange.history]
  | ok reply => cases logs <;> simp [handled, complete, completion, Exchange.history]

/-- A record of a completed request: under the id, with the status of the reply. -/
structure IsCompletion (id : String) (status : Nat) (record : Record) : Prop where
  level : record.level = .http
  context : record.context = some label
  requestId : record.requestId = some id
  status : record.meta? "status" = some (.ofNat status)

theorem isCompletion_recordOf (id : String) (request : Inquiry) (status elapsed : Nat)
    (time : Timestamp) :
    IsCompletion id status
      (Logger.recordOf (some label) (some id) time (completionNote request status elapsed)) := by
  refine ⟨rfl, rfl, rfl, ?_⟩
  -- The name of the status is not one of those whose values are hidden.
  have open_ : Redaction.isSensitive "status" = false := by decide
  show Json.Fields.find? (Redaction.redactFields (Json.Fields.ofList
    [("method", .string request.method), ("path", .string request.path),
      ("status", .ofNat status), ("durationMs", .ofNat (min elapsed 0xFFFFFFFFFFFFFFFF))]))
    "status" = some (.ofNat status)
  rw [Redaction.find?_redactFields, Json.Fields.find?_ofList (by simp)]
  simp [Json.Fields.find?, Redaction.cleaned, open_, Json.ofNat, Redaction.redact]

/-- What a service leaves where its handler leaves a scene: the record of a reply, if it is wanted,
and nothing else. -/
theorem replay_completion (logger : Logger World SinkFailure) (logs : Bool) (id : String)
    (request : Inquiry) (status elapsed : Nat) (scene : Scene World) :
    (logs = true ∧ logger.isEnabled .http = true ∧ ∃ record, IsCompletion id status record
        ∧ replay logger (completion logs id request status elapsed) scene
          = { scene with log := Logger.offer logger.sinks record scene.log })
      ∨ ¬(logs = true ∧ logger.isEnabled .http = true)
        ∧ replay logger (completion logs id request status elapsed) scene = scene := by
  cases logs with
  | false => exact .inr ⟨by simp, rfl⟩
  | true =>
    let remark : Remark := ⟨label, some id, completionNote request status elapsed⟩
    have heard : replay logger (completion true id request status elapsed) scene
        = scene.hear logger remark := rfl
    rw [heard]
    cases counts : logger.isEnabled .http with
    | true =>
      exact .inl ⟨rfl, rfl, scene.recordOf remark,
        isCompletion_recordOf id request status elapsed scene.time,
        Scene.hear_of_enabled counts scene⟩
    | false => exact .inr ⟨by simp, Scene.hear_of_disabled counts scene⟩

/-- A reply as it leaves a service: with one id in its headers, and otherwise as the handler made
it. -/
structure IsAnswer (id : String) (reply answer : Reply Body) : Prop where
  status : answer.status = reply.status
  body : answer.body = reply.body
  headers : IsStamped id reply.headers answer.headers

/-- What becomes of a handler's run in a service: a failure passes, a reply is stamped, and it is
told in one record at most, after all that the handler did. -/
inductive Served (logger : Logger World SinkFailure) (logs : Bool) (id : String) :
    Except Failure (Reply Body) × Scene World → Except Failure (Reply Body) × Scene World → Prop
  | failed (failure : Failure) (scene : Scene World) :
      Served logger logs id (.error failure, scene) (.error failure, scene)
  | told {reply answer : Reply Body} {record : Record} {scene : Scene World} :
      IsAnswer id reply answer → logs = true → logger.isEnabled .http = true →
      IsCompletion id reply.status record →
      Served logger logs id (.ok reply, scene)
        (.ok answer, { scene with log := Logger.offer logger.sinks record scene.log })
  | untold {reply answer : Reply Body} {scene : Scene World} :
      IsAnswer id reply answer → ¬(logs = true ∧ logger.isEnabled .http = true) →
      Served logger logs id (.ok reply, scene) (.ok answer, scene)

/-- A service runs as its handler does under the id and with the id in the request. -/
theorem runAlone_withRequestId (logger : Logger World SinkFailure) (logs : Bool) (fresh : String)
    (inner : Handler Failure Body) (outer : Option String) (request : Inquiry)
    (clean : IsClean ((sentId? request.headers).getD fresh)) (scene : Scene World) :
    let id := (sentId? request.headers).getD fresh
    let handed := { request with headers := stamp id request.headers }
    ∃ least, ∀ waits, least ≤ waits → ∃ handled served,
      runAlone logger ⟨inner (some id) handed, waits⟩ scene = (some handled.1, handled.2)
      ∧ runAlone logger ⟨withRequestId logs fresh inner outer request, waits⟩ scene
        = (some served.1, served.2)
      ∧ Served logger logs id handled served := by
  intro id handed
  let service := withRequestId logs fresh inner outer request
  let handled := (inner (some id) handed).history scene.outcomes scene.now
  let left := replay logger handled.1 scene
  obtain ⟨elapsed, told⟩ :=
    service_history logs fresh inner outer request scene.outcomes scene.now
  change service.history scene.outcomes scene.now = match handled.2 with
    | .error failure => (handled.1, .error failure)
    | .ok reply =>
      (handled.1 ++ completion logs id request reply.status elapsed,
        .ok { reply with headers := stamp id reply.headers }) at told
  -- The service waits where its handler does: what it tells at the end takes no time.
  refine ⟨waitsOf handled.1, fun waits enough => ?_⟩
  have handlerRun : runAlone logger ⟨inner (some id) handed, waits⟩ scene
      = (some handled.2, left) :=
    runAlone_eq_replay logger ⟨inner (some id) handed, waits⟩ scene enough
  have serviceRun : waitsOf (service.history scene.outcomes scene.now).1 ≤ waits → _ :=
    runAlone_eq_replay logger ⟨service, waits⟩ scene
  cases result : handled.2 with
  | error failure =>
    rw [result] at told handlerRun
    rw [told] at serviceRun
    exact ⟨(.error failure, left), (.error failure, left), handlerRun, serviceRun enough,
      .failed failure left⟩
  | ok reply =>
    let answer := { reply with headers := stamp id reply.headers }
    let ending := completion logs id request reply.status elapsed
    have quiet : waitsOf ending = 0 := by
      cases logs <;> rfl
    have answers : IsAnswer id reply answer := ⟨rfl, rfl, isStamped_stamp clean reply.headers⟩
    rw [result] at told handlerRun
    rw [told] at serviceRun
    simp only [waitsOf_append, replay_append] at serviceRun
    refine ⟨(.ok reply, left), (.ok answer, replay logger ending left), handlerRun,
      serviceRun (by rw [quiet, Nat.add_zero]; exact enough), ?_⟩
    rcases replay_completion logger logs id request reply.status elapsed left with
      ⟨wanted, counts, record, completes, same⟩ | ⟨unwanted, same⟩
    · rw [same]
      exact .told answers wanted counts completes
    · rw [same]
      exact .untold answers unwanted

/-- Every request is served under one id: the one that its caller sent, or else the fresh one. The
handler finds it in the request, and its steps find it around themselves under every schedule, while
steps before and after the service find what surrounds them all. The run is that of the handler, but
for the reply, which leaves with the id, and for one record of it at the end. -/
theorem requests_are_served_under_one_id (logger : Logger World SinkFailure) (logs : Bool)
    {fresh : String} (random : isRandomUuid fresh = true) (inner : Handler Failure Body)
    (outer : Option String) (request : Inquiry) :
    ∃ id, Uses request.headers fresh id ∧
      let handed := { request with headers := stamp id request.headers }
      let service := withRequestId logs fresh inner outer request
      IsStamped id request.headers handed.headers
      ∧ (∀ scene, ∃ least, ∀ waits, least ≤ waits → ∃ handled served,
          runAlone logger ⟨inner (some id) handed, waits⟩ scene = (some handled.1, handled.2)
          ∧ runAlone logger ⟨service, waits⟩ scene = (some served.1, served.2)
          ∧ Served logger logs id handled served)
      ∧ ∀ (routine : Routine Failure Body) before after verdicts turns,
          let served := routine.served logs fresh
          let state := Ambient.takeTurns turns
            (.fresh (Ambient.within outer (before ++ served.steps request ++ after)),
              ⟨none, [], verdicts⟩)
          let seen := Ambient.seenAround outer before id (routine.steps handed) after
          state.2.slot = none
          ∧ Ambient.Trace.BeginAll (Ambient.programTrace state) seen
          ∧ (Ambient.isOver state = true → Ambient.programTrace state = seen)
          ∧ (routine.handler = inner →
              service = served.handler outer request
              ∧ inner (some id) handed
                = routine.react (Ambient.Step.meanings (some id) (routine.steps handed)) handed) := by
  have uses := uses_sentId? request.headers fresh
  have clean := uses.isClean random
  refine ⟨(sentId? request.headers).getD fresh, uses, isStamped_stamp clean request.headers, ?_, ?_⟩
  · exact runAlone_withRequestId logger logs fresh inner outer request clean
  · intro routine before after verdicts turns
    obtain ⟨slot, begins, ended⟩ :=
      routine.served_seen logs fresh outer request before after verdicts turns
    refine ⟨slot, begins, ended, ?_⟩
    rintro rfl
    exact ⟨congrFun (congrFun (routine.handler_served logs fresh) outer) request, rfl⟩

/-- A caller sends a blank and then an id, and the handler sets two ids of its own: the reply has
the fresh id, and no other. A handler that looks around itself sees it too, after a step that waits
and before one that is in no scope. -/
theorem requests_are_served_under_one_id_despite_others :
    let fresh := "123e4567-e89b-42d3-a456-426614174000"
    let request : Inquiry :=
      ⟨"GET", "/", [(Headers.requestId, [0x20]), (Headers.requestId, bytesOf "late")]⟩
    let inner : Handler Unit (Option String) := fun ambient _ => .finish <| .ok
      ⟨200, [(Headers.requestId, bytesOf "one"), (Headers.requestId, bytesOf "two")], ambient⟩
    let silent : Logger Unit Unit := .silent
    let scene : Scene Unit := ⟨0, [], [], ()⟩
    let routine := Routine.ofHandler inner
    let state := Ambient.takeTurns [.program, .program, .program]
      (.fresh ([.wait] ++ (routine.served true fresh).steps request ++ [.observe]),
        ⟨none, [], [false]⟩)
    isRandomUuid fresh = true
      ∧ (∃ waits answer left,
          runAlone silent ⟨withRequestId true fresh inner none request, waits⟩ scene
            = (some (.ok answer), left)
          ∧ answer.headers.valuesOf Headers.requestId = [bytesOf fresh])
      ∧ routine.handler = inner
      ∧ Ambient.programTrace state = [.nothing, .list [.seen (some fresh)], .seen none] := by
  intro fresh request inner silent scene routine state
  have random : isRandomUuid fresh = true := by decide +kernel
  have unusable : sentId? request.headers = none := by decide +kernel
  have same : routine.handler = inner := Routine.handler_ofHandler inner
  obtain ⟨id, uses, _, runs, sees⟩ :=
    requests_are_served_under_one_id silent true random inner none request
  obtain rfl : id = fresh := by rw [uses.eq, unusable, Option.getD_none]
  obtain ⟨least, served⟩ := runs scene
  obtain ⟨handled, told, handlerRun, serviceRun, became⟩ := served least (Nat.le_refl least)
  refine ⟨random, ⟨least, ?_⟩, same, ?_⟩
  · cases became with
    | failed failure left => cases handlerRun
    | told answers wanted counts completes => exact ⟨_, _, serviceRun, answers.headers.id⟩
    | untold answers unwanted => exact ⟨_, _, serviceRun, answers.headers.id⟩
  · obtain ⟨_, _, ended, _⟩ :=
      sees routine [.wait] [.observe] [false] [.program, .program, .program]
    have allDone : Ambient.isOver state = true := by decide +kernel
    exact ended allDone

end Gatehouse.Inbound
