import Gatehouse.Proofs.Http.Rounds
import Gatehouse.Proofs.Http.Together

/-!
# Calls do not meet

Calls of one client that share a transport, a logger and the slot for the ambient id, in whatever
turns they go on. Each sends and logs under its own request id, outcomes go to requests in the order
of their arrival, and what a call does and returns is what it does alone on the outcomes that went
to it.
-/
namespace Gatehouse

open Interleaving

variable {α : Type}

/-- What a caller asks of a client, and the request id of the scope that it asks in, if any. -/
structure Order (α : Type) where
  scope : Option String
  decoder : Json.Decoder α
  method : String
  url : String
  payload : Call.Payload
  options : CallOptions

namespace Order

/-- The call of an order as a task. -/
def task (config : ClientConfig) (order : Order α) : ScopedTask (CallResult α) where
  scope := order.scope
  start := Call.requestWith config order.decoder order.method order.url order.payload order.options

def retries (config : ClientConfig) (order : Order α) : Nat :=
  order.options.retries.getD config.retries

/-- The id that requests carry: the one of the scope, or else the last that the caller gave among
the headers of the call. -/
def carried (order : Order α) : Option String :=
  order.scope.or (Headers.named Headers.requestId order.options.headers).getLast?

theorem task_isLexical (config : ClientConfig) (order : Order α) :
    (order.task config).IsLexical := by
  constructor
  case timeless => exact Call.requestWith_isTimeless _ _ _ _ _ _ _
  case speaks =>
    refine (Call.requestWith_bears _ _ _ _ _ _ order.scope).imp ?_
    intro deed bears
    cases deed with
    | said remark => exact bears
    | sent request => trivial
    | paused span => trivial
    | gaveWay => trivial

end Order

/-! ## Isolation -/

section

variable {World Failure : Type}

/-- What calls leave of what they share, whatever turns they took: all bears the request id of the
call that it is of, transport and log have what the calls sent and said, and outcomes went to
requests one by one until there were none left. -/
structure Shares (logger : Logger World Failure) (orders : List (Order α)) (script : List Outcome)
    (world : World) (state : State World (CallResult α)) : Prop where
  slot : state.slot = none
  bears : ∀ event ∈ state.trace, ∃ order, orders[event.task]? = some order
    ∧ event.deed.Bears order.scope order.carried
  records : ∀ told ∈ recordsIn logger state.trace, ∃ order, orders[told.1]? = some order
    ∧ told.2.requestId = order.scope
  sent : state.scene.sent = sentIn state.trace
  log : state.scene.log = (recordsIn logger state.trace).foldl
    (fun log told => Logger.offer logger.sinks told.2 log) world
  outcomes : (outcomesOf state.trace).length = state.scene.sent.length
  given : outcomesOf state.trace = script.take state.scene.sent.length
    ++ List.replicate (state.scene.sent.length - script.length) Scene.exhausted
  left : state.scene.script = script.drop state.scene.sent.length
  remaining : state.scene.script.length
    = script.length - min script.length state.scene.sent.length

/-- What a call has done among others: so it begins alone on the outcomes that went to it, and once
it has a result, a run of it alone does the same and returns the same. -/
structure GoesAlone (config : ClientConfig) (logger : Logger World Failure) (order : Order α)
    (number : Nat) (state : State World (CallResult α)) : Prop where
  begins : ∀ later moment, deedsOf (ofTask number state.trace)
    <+: ((order.task config).exchange.history
          (supply (outcomesOf (ofTask number state.trace)) later) moment).1
  history : ∀ result, state.results[number]? = some (some result) → ∀ later moment,
    (order.task config).exchange.history
        (supply (outcomesOf (ofTask number state.trace)) later) moment
      = (deedsOf (ofTask number state.trace), result)
  run : ∀ result, state.results[number]? = some (some result) →
    ∀ (waits moment : Nat) (log : World), order.retries config ≤ waits →
      let own := ofTask number state.trace
      let scene : Scene World := ⟨moment, outcomesOf own, [], log⟩
      let solo := runAlone logger ⟨(order.task config).exchange, waits⟩ scene
      solo = (some result, replay logger (deedsOf own) scene)
        ∧ solo.2.sent.map Sent.request = requestsOf (deedsOf own)
        ∧ solo.2.script = []

variable {config : ClientConfig} {logger : Logger World Failure}
  {orders : List (Order α)} {scene : Scene World} {state : State World (CallResult α)}

/-- All that happens in turns bears the request id of the call that did it. -/
theorem bears_of_kept (kept : Kept logger (orders.map (Order.task config)) scene state)
    {event : Interleaving.Event} (member : event ∈ state.trace) :
    ∃ order, orders[event.task]? = some order ∧ event.deed.Bears order.scope order.carried := by
  have inside := (kept.proper event member).1
  rw [List.length_map] at inside
  have here : orders[event.task]? = some orders[event.task] := List.getElem?_eq_getElem inside
  refine ⟨_, here, ?_⟩
  apply kept.deed_kind member
  case here => rw [List.getElem?_map, here, Option.map_some]
  case only => exact Call.requestWith_bears _ _ _ _ _ _ _

theorem requestId_of_kept (kept : Kept logger (orders.map (Order.task config)) scene state)
    {told : Nat × Record} (member : told ∈ recordsIn logger state.trace) :
    ∃ order, orders[told.1]? = some order ∧ told.2.requestId = order.scope := by
  obtain ⟨event, happened, logged⟩ := List.mem_filterMap.mp member
  obtain ⟨record, recorded, rfl⟩ := Option.map_eq_some_iff.mp logged
  obtain ⟨remark, said, same⟩ := remark_of_record recorded
  obtain ⟨order, here, bears⟩ := bears_of_kept kept happened
  rw [said] at bears
  exact ⟨order, here, same.trans bears⟩

theorem shares_of_kept {now : Nat} {script : List Outcome} {world : World}
    (kept : Kept logger (orders.map (Order.task config)) ⟨now, script, [], world⟩ state) :
    Shares logger orders script world state := by
  have sent : state.scene.sent = sentIn state.trace := by
    rw [kept.tells.sent, List.nil_append]
  have sends : (outcomesOf state.trace).length = state.scene.sent.length := by
    rw [sent]
    exact (sentIn_length kept.proper).1.symm
  have given := kept.tells.given
  have left : state.scene.script = script.drop (outcomesOf state.trace).length := kept.tells.script
  rw [sends] at given left
  constructor
  case slot => exact kept.slot
  case bears => exact fun _ => bears_of_kept kept
  case records => exact fun _ => requestId_of_kept kept
  case sent => exact sent
  case log => exact kept.tells.log
  case outcomes => exact sends
  case given => exact given
  case left => exact left
  case remaining =>
    rw [left, List.length_drop]
    omega

theorem goesAlone_of_kept (kept : Kept logger (orders.map (Order.task config)) scene state)
    {number : Nat} {order : Order α} (here : orders[number]? = some order) :
    GoesAlone config logger order number state := by
  have task : (orders.map (Order.task config))[number]? = some (order.task config) := by
    rw [List.getElem?_map, here, Option.map_some]
  have told : ∀ result, state.results[number]? = some (some result) → ∀ later moment,
      (order.task config).exchange.history
          (supply (outcomesOf (ofTask number state.trace)) later) moment
        = (deedsOf (ofTask number state.trace), result) :=
    fun _ => kept.history_of_result task
  constructor
  case begins => exact kept.deeds_begin task
  case history => exact told
  case run =>
    intro result done waits moment log enough own scene solo
    let stream := supply (outcomesOf own) fun _ => Scene.exhausted
    have alone := runAlone_of_script logger (order.task config).exchange waits stream scene
    rw [told result done] at alone
    have proper : ∀ event ∈ own, event.IsProper (orders.map (Order.task config)) :=
      fun event member => kept.proper event (List.mem_filter.mp member).1
    have requests : (requestsOf (deedsOf own)).length = (outcomesOf own).length :=
      (sentIn_length proper).2
    have run : solo = (some result, replay logger (deedsOf own) scene) := by
      apply alone
      case delivered =>
        intro i inside
        rw [requests] at inside
        simp only [scene, stream, supply, List.getElem?_eq_getElem inside, Option.getD_some]
      case enough =>
        have few := Call.requestWith_waitsAtMost config order.decoder order.method order.url
          order.payload order.options order.scope enough
        have waited : waitsOf ((order.task config).exchange.history stream moment).1 ≤ waits :=
          few.history stream moment
        rwa [told result done] at waited
    refine ⟨run, ?_, ?_⟩
    · rw [run]
      exact replay_requests logger (deedsOf own) scene
    · rw [run]
      refine (replay_script logger (deedsOf own) scene).trans ?_
      rw [requests]
      exact List.drop_length

end

/-- Under any interleaving, calls leave of what they share what they should, and each of them does
and returns what it does alone on the outcomes that went to it. The scheduler runs calls in one of
these interleavings, and in it every call ends. -/
theorem interleaved_calls_are_isolated {World Failure : Type} (config : ClientConfig)
    (logger : Logger World Failure) (orders : List (Order α)) (script : List Outcome) (now : Nat)
    (world : World) :
    let start : State World (CallResult α) :=
      .start (orders.map (Order.task config)) ⟨now, script, [], world⟩
    (∀ turns,
      let state := start.takeTurns logger turns
      Shares logger orders script world state
      ∧ ∀ number order, orders[number]? = some order → GoesAlone config logger order number state)
    ∧ ∀ waits, (∀ order ∈ orders, order.retries config ≤ waits) →
        ∃ turns,
          let state := start.takeTurns logger turns
          runTogether logger (orders.map fun order => ⟨(order.task config).exchange, waits⟩)
              ⟨now, script, [], world⟩
            = (state.results, state.scene)
          ∧ ∀ result ∈ state.results, result.isSome = true := by
  intro start
  have lexical : ∀ task ∈ orders.map (Order.task config), task.IsLexical :=
    List.forall_mem_map.mpr fun order _ => order.task_isLexical config
  constructor
  · intro turns state
    have kept : Kept logger _ ⟨now, script, [], world⟩ state :=
      (kept_start logger lexical ⟨now, script, [], world⟩).takeTurns turns
    exact ⟨shares_of_kept kept, fun _ _ => goesAlone_of_kept kept⟩
  · intro waits enough
    let bounded := orders.map fun order =>
      BoundedTask.mk (order.task config).exchange waits
    have same : bounded.map (·.exchange)
        = (orders.map (Order.task config)).map ScopedTask.exchange := by
      simp only [bounded, List.map_map, Function.comp_def]
    obtain ⟨turns, together⟩ :=
      runTogether_turns logger lexical bounded same ⟨now, script, [], world⟩
    refine ⟨turns, together, ?_⟩
    have few : ∀ task ∈ bounded, task.exchange.WaitsAtMost task.waits :=
      List.forall_mem_map.mpr fun order member =>
        Call.requestWith_waitsAtMost _ _ _ _ _ _ _ (enough order member)
    have ended := runTogether_ends logger bounded few ⟨now, script, [], world⟩
    rw [together] at ended
    exact ended

/-- Two calls of which the second sends first: it is given the one outcome of the script, and the
first call returns what it does alone on a script that has nothing for it. -/
theorem interleaved_calls_are_isolated_overtaking :
    let order (scope : Option String) : Order Json :=
      ⟨scope, .json, "GET", "/x", .nothing, { CallOptions.none with retries := some 0 }⟩
    let silent : Logger Unit Unit := .silent
    let state := (State.start [(order (some "req-A")).task .usual, (order none).task .usual]
      ⟨0, [.error (.network "down" none)], [], ()⟩).takeTurns silent
        [.task 0, .task 1, .task 1, .task 0, .task 1, .task 0, .task 0, .task 1, .task 1, .task 0]
    let told (number : Nat) := (outcomesOf (ofTask number state.trace)).map fun outcome =>
      match outcome with
      | .ok raw => raw.statusText
      | .error error => error.message
    (told 0, told 1) = (["scripted transport exhausted"], ["down"])
      ∧ ∃ result, state.results[0]? = some (some result)
        ∧ (runAlone silent ⟨((order (some "req-A")).task .usual).exchange, 0⟩
            ⟨0, outcomesOf (ofTask 0 state.trace), [], ()⟩).1 = some result := by
  intro order silent state told
  have done : state.results[0]?.join.isSome = true := by decide +kernel
  obtain ⟨result, ended⟩ := Option.isSome_iff_exists.mp done
  have first : state.results[0]? = some (some result) := Option.join_eq_some_iff.mp ended
  refine ⟨by decide +kernel, result, first, ?_⟩
  have isolated := (interleaved_calls_are_isolated .usual silent
    [order (some "req-A"), order none] [.error (.network "down" none)] 0 ()).1
      [.task 0, .task 1, .task 1, .task 0, .task 1, .task 0, .task 0, .task 1, .task 1, .task 0]
  have alone := (isolated.2 0 (order (some "req-A")) rfl).run result first 0 0 () (Nat.le_refl 0)
  exact congrArg Prod.fst alone.1

/-- A call outside of any scope whose caller gives an id of its own sends that id: its requests
are not always without one. -/
theorem unscoped_call_may_carry_an_id :
    ¬∀ (order : Order Json) (script : List Outcome) (turns : List Turn),
      let state := (State.start [order.task .usual] ⟨0, script, [], ()⟩).takeTurns
        (Logger.silent : Logger Unit Unit) turns
      ∀ sent ∈ state.scene.sent,
        Headers.named Headers.requestId sent.request.headers = order.scope.toList := by
  intro onlyScopesGiveIds
  let order : Order Json := ⟨none, .json, "GET", "/x", .nothing,
    { CallOptions.none with headers := [("x-request-id", "own")] }⟩
  let state := (State.start [order.task .usual] ⟨0, [], [], ()⟩).takeTurns
    (Logger.silent : Logger Unit Unit) [.task 0, .task 0]
  have carried : (state.scene.sent.map fun sent =>
      Headers.named Headers.requestId sent.request.headers) = [["own"]] := by decide +kernel
  have member : ["own"] ∈ state.scene.sent.map fun sent =>
      Headers.named Headers.requestId sent.request.headers := by
    rw [carried]
    exact List.mem_singleton.mpr rfl
  obtain ⟨sent, recorded, own⟩ := List.mem_map.mp member
  have absent := onlyScopesGiveIds order [] [.task 0, .task 0] sent recorded
  rw [own] at absent
  cases absent

end Gatehouse
