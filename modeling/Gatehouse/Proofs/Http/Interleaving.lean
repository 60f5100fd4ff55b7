import Gatehouse.Proofs.Http.Deeds

/-!
# Tasks in turns

Tasks that share a script, a log and a slot for the ambient request id, and go on one step at a
time, in any order and at any moment that none of them still waits for. A task with a scope finds
its own id in the slot whenever it goes on, and leaves the slot as it was; what it logs is stamped
with what the slot shows.

What all turns keep is stated of the trace of a run: the scene is what the trace tells, the script
is handed out in the order of the requests, and what the trace tells of one task is what that task
does by itself on the outcomes it was given.
-/
namespace Gatehouse.Interleaving

/-- A task and the request id of its scope, if it runs in one. The task looks at the slot when it
starts. -/
structure ScopedTask (Result : Type) where
  scope : Option String
  start : Option String → Exchange Result

/-- A task as it should run: in sight of its own scope. -/
def ScopedTask.exchange {Result : Type} (task : ScopedTask Result) : Exchange Result :=
  task.start task.scope

/-- A task, and where it stands once it has started. -/
structure Seat (Result : Type) where
  task : ScopedTask Result
  standing : Option (Standing Result)

/-- What a task did, when, and what its request was answered. -/
structure Event where
  task : Nat
  moment : Nat
  deed : Deed
  outcome : Option Outcome

structure State (World Result : Type) where
  slot : Option String
  seats : List (Seat Result)
  scene : Scene World
  trace : List Event

/-- A task goes on, or time goes by. -/
inductive Turn
  | task (number : Nat)
  | elapse (millis : Nat)

/-- What a step comes to: where the task stands then, the scene, and what was done. -/
structure Move (World Result : Type) where
  standing : Standing Result
  scene : Scene World
  done : Option (Deed × Option Outcome)

variable {World Failure Result : Type}

/-- One step of a task while the slot shows a request id. -/
def moveOf (logger : Logger World Failure) (slot : Option String) (scene : Scene World) :
    Exchange Result → Move World Result
  | .finish result => ⟨.done result, scene, none⟩
  | .remark entry next =>
    let stamped := { entry with requestId := slot }
    ⟨.aside next, scene.hear logger stamped, some (.said stamped, none)⟩
  | .clock next => ⟨.aside (next scene.now), scene, none⟩
  | .pause span next =>
    ⟨.waiting (scene.now + span.timerMillis) next, scene, some (.paused span, none)⟩
  | .giveWay next => ⟨.aside next, scene, some (.gaveWay, none)⟩
  | .send request next =>
    ⟨.aside (next (scene.answer request).1), (scene.answer request).2,
      some (.sent request, some (scene.answer request).1)⟩

/-- What a task goes on with, unless it is done or still waits. -/
def Seat.next? (slot : Option String) (now : Nat) (seat : Seat Result) : Option (Exchange Result) :=
  match seat.standing with
  | none => some (seat.task.start slot)
  | some (.done _) => none
  | some (.waiting moment rest) => if moment ≤ now then some rest else none
  | some (.aside rest) => some rest

/-- The result of a task that is done. -/
def Seat.result? (seat : Seat Result) : Option Result :=
  match seat.standing with
  | some (.done result) => some result
  | some (.waiting ..) => none
  | some (.aside _) => none
  | none => none

namespace State

/-- Tasks that have not started. -/
def start (tasks : List (ScopedTask Result)) (scene : Scene World) : State World Result where
  slot := none
  seats := tasks.map fun task => ⟨task, none⟩
  scene := scene
  trace := []

def setSlot (state : State World Result) (slot : Option String) : State World Result :=
  { state with slot := slot }

/-- The state after a step of the task in a seat. -/
def after (state : State World Result) (number : Nat) (seat : Seat Result)
    (move : Move World Result) : State World Result where
  slot := state.slot
  seats := state.seats.set number { seat with standing := some move.standing }
  scene := move.scene
  trace := state.trace
    ++ (move.done.map fun done => ⟨number, state.scene.now, done.1, done.2⟩).toList

/-- A step of the task in a seat, in sight of the slot as it is. -/
def goOn (logger : Logger World Failure) (state : State World Result) (number : Nat)
    (seat : Seat Result) : State World Result :=
  match seat.next? state.slot state.scene.now with
  | none => state
  | some rest => state.after number seat (moveOf logger state.slot state.scene rest)

def elapse (state : State World Result) (millis : Nat) : State World Result :=
  { state with scene := { state.scene with now := state.scene.now + millis } }

/-- A scope puts its id into the slot while its task goes on, and puts back what it found. -/
def takeTurn (logger : Logger World Failure) (state : State World Result) :
    Turn → State World Result
  | .elapse millis => state.elapse millis
  | .task number =>
    match state.seats[number]? with
    | none => state
    | some seat =>
      let inside := state.setSlot (seat.task.scope.or state.slot)
      (inside.goOn logger number seat).setSlot state.slot

def takeTurns (logger : Logger World Failure) (state : State World Result)
    (turns : List Turn) : State World Result :=
  turns.foldl (takeTurn logger) state

/-- The results that there are so far. -/
def results (state : State World Result) : List (Option Result) := state.seats.map Seat.result?

end State

/-! ## Traces -/

def deedsOf (trace : List Event) : List Deed := trace.map (·.deed)

/-- The outcomes that were handed out, in their order. -/
def outcomesOf (trace : List Event) : List Outcome := trace.filterMap (·.outcome)

/-- What a trace tells of one task. -/
def ofTask (number : Nat) (trace : List Event) : List Event :=
  trace.filter fun event => event.task == number

/-- The requests of a trace, as a transport records them. -/
def sentIn (trace : List Event) : List Sent :=
  trace.filterMap fun event => event.deed.request?.map fun request => ⟨request, event.moment⟩

/-- The record that an event leaves, if it is a remark of a level that counts. -/
def Event.record? (logger : Logger World Failure) (event : Event) : Option Record :=
  match event.deed with
  | .said remark =>
    if logger.isEnabled remark.note.level then
      some (Logger.recordOf (some remark.label) remark.requestId
        ⟨event.moment / 1000, event.moment % 1000 * 1000000⟩ remark.note)
    else none
  | .sent _ | .paused _ | .gaveWay => none

/-- The records of a trace, each with the task that logged it. -/
def recordsIn (logger : Logger World Failure) (trace : List Event) : List (Nat × Record) :=
  trace.filterMap fun event => (event.record? logger).map fun record => (event.task, record)

/-! ## A task by itself -/

/-- The stream that begins with outcomes and goes on as another. -/
def supply (given : List Outcome) (later : Nat → Outcome) (i : Nat) : Outcome :=
  given[i]?.getD (later (i - given.length))

@[simp] theorem supply_zero (outcome : Outcome) (given : List Outcome) (later : Nat → Outcome) :
    supply (outcome :: given) later 0 = outcome := rfl

theorem supply_append (first second : List Outcome) (later : Nat → Outcome) :
    supply (first ++ second) later = supply first (supply second later) := by
  funext i
  by_cases inside : i < first.length
  · simp only [supply, List.getElem?_append_left inside, List.getElem?_eq_getElem inside,
      Option.getD_some]
  · have outside : first.length ≤ i := Nat.le_of_not_lt inside
    simp only [supply, List.getElem?_append_right outside, List.getElem?_eq_none outside,
      Option.getD_none, List.length_append, Nat.sub_add_eq]

/-- What a task has before it where it stands. -/
def restOf : Standing Result → Exchange Result
  | .done result => .finish result
  | .waiting _ rest => rest
  | .aside rest => rest

def Seat.rest (seat : Seat Result) : Exchange Result :=
  match seat.standing with
  | none => seat.task.exchange
  | some standing => restOf standing

theorem Seat.rest_of_next? {seat : Seat Result} {now : Nat} {next : Exchange Result}
    (goes : seat.next? seat.task.scope now = some next) : seat.rest = next := by
  obtain ⟨task, standing⟩ := seat
  cases standing with
  | none => exact Option.some.inj goes
  | some standing =>
    cases standing with
    | done result => cases goes
    | waiting moment waiting =>
      simp only [Seat.next?] at goes
      split at goes
      · exact Option.some.inj goes
      · cases goes
    | aside waiting => exact Option.some.inj goes

/-- What is said bears the request id of a scope. -/
def IsUnder (scope : Option String) : Deed → Prop
  | .said remark => remark.requestId = scope
  | .sent _ => True
  | .paused _ => True
  | .gaveWay => True

/-- A task has come to a rest by deeds and on outcomes that it was given: whatever comes later, its
history is those deeds and then what the rest does. -/
structure Reaches (scope : Option String) (first : Exchange Result) (deeds : List Deed)
    (given : List Outcome) (rest : Exchange Result) : Prop where
  timeless : rest.IsTimeless
  speaks : rest.OnlyDoes (IsUnder scope)
  history : ∀ later now, first.history (supply given later) now
    = (deeds ++ (rest.history later now).1, (rest.history later now).2)

theorem Reaches.start {scope : Option String} {first : Exchange Result}
    (timeless : first.IsTimeless) (speaks : first.OnlyDoes (IsUnder scope)) :
    Reaches scope first [] [] first :=
  ⟨timeless, speaks, fun _ _ => rfl⟩

/-- One step leads a task further along its own history. -/
theorem Reaches.move {scope : Option String} {first rest : Exchange Result} {deeds : List Deed}
    {given : List Outcome} (reaches : Reaches scope first deeds given rest)
    (logger : Logger World Failure) (scene : Scene World) :
    let move := moveOf logger scope scene rest
    Reaches scope first (deeds ++ (move.done.map (·.1)).toList)
      (given ++ (move.done.bind (·.2)).toList) (restOf move.standing) := by
  obtain ⟨timeless, speaks, history⟩ := reaches
  -- A case for each step: what it did goes to the deeds, and the rest has one step less before it.
  cases rest with
  | finish result =>
    refine ⟨trivial, trivial, ?_⟩
    simpa [moveOf, restOf] using history
  | remark entry next =>
    -- The slot shows what the task would have said by itself.
    obtain ⟨label, requestId, note⟩ := entry
    obtain ⟨rfl, speaks⟩ := speaks
    refine ⟨timeless, speaks, ?_⟩
    simpa [moveOf, restOf, Exchange.history] using history
  | clock next => exact absurd timeless id
  | pause span next =>
    -- By itself the rest starts later than here, which is the same to what looks at no clock.
    have calm : next.IsTimeless := timeless
    refine ⟨calm, speaks.2, ?_⟩
    intro later now
    have same := calm.history later (now + span.timerMillis) now
    have before := history later now
    rw [Exchange.history_pause, same] at before
    simpa [moveOf, restOf] using before
  | giveWay next =>
    refine ⟨timeless, speaks.2, ?_⟩
    simpa [moveOf, restOf, Exchange.history] using history
  | send request next =>
    -- The task was given one outcome more, so the stream is taken to begin with that one.
    refine ⟨timeless _, speaks.2 _, ?_⟩
    intro later now
    have before := history (supply [(scene.answer request).1] later) now
    rw [← supply_append] at before
    have shifted : (fun i => supply [(scene.answer request).1] later (i + 1)) = later := rfl
    simp only [Exchange.history, shifted] at before
    simpa [moveOf, restOf] using before

/-! ## Turns -/

/-- A task that can go on takes its step in sight of its own scope. -/
theorem takeTurn_of_next? (logger : Logger World Failure) {state : State World Result}
    (free : state.slot = none) {number : Nat} {seat : Seat Result} {next : Exchange Result}
    (held : state.seats[number]? = some seat)
    (goes : seat.next? seat.task.scope state.scene.now = some next) :
    state.takeTurn logger (.task number)
      = state.after number seat (moveOf logger seat.task.scope state.scene next) := by
  obtain ⟨slot, seats, scene, trace⟩ := state
  obtain rfl : slot = none := free
  replace held : seats[number]? = some seat := held
  replace goes : seat.next? seat.task.scope scene.now = some next := goes
  simp only [State.takeTurn, held, State.goOn, State.setSlot, Option.or_none, goes]
  rfl

/-- With an empty slot before it, a turn lets time go by, or is a step of a task that can go on. -/
theorem takeTurn_cases (logger : Logger World Failure) (state : State World Result)
    (free : state.slot = none) (turn : Turn) :
    (∃ millis, state.takeTurn logger turn = state.elapse millis)
      ∨ ∃ (number : Nat) (seat : Seat Result) (next : Exchange Result),
          state.seats[number]? = some seat
          ∧ seat.rest = next
          ∧ state.takeTurn logger turn
            = state.after number seat (moveOf logger seat.task.scope state.scene next) := by
  cases turn with
  | elapse millis => exact .inl ⟨millis, rfl⟩
  | task number =>
    cases held : state.seats[number]? with
    | none => exact .inl ⟨0, by simp only [State.takeTurn, held]; rfl⟩
    | some seat =>
      cases goes : seat.next? seat.task.scope state.scene.now with
      | some next =>
        exact .inr ⟨number, seat, next, held, Seat.rest_of_next? goes,
          takeTurn_of_next? logger free held goes⟩
      | none =>
        -- A task that is done or waits leaves everything as it is.
        obtain ⟨slot, seats, scene, trace⟩ := state
        obtain rfl : slot = none := free
        refine .inl ⟨0, ?_⟩
        replace held : seats[number]? = some seat := held
        replace goes : seat.next? seat.task.scope scene.now = none := goes
        simp only [State.takeTurn, held, State.goOn, State.setSlot, Option.or_none, goes]
        rfl

/-- What a move tells in a trace. -/
def Move.events (move : Move World Result) (number now : Nat) : List Event :=
  (move.done.map fun done => ⟨number, now, done.1, done.2⟩).toList

theorem after_trace (state : State World Result) (number : Nat) (seat : Seat Result)
    (move : Move World Result) :
    (state.after number seat move).trace = state.trace ++ move.events number state.scene.now :=
  rfl

theorem ofTask_events_same (move : Move World Result) (number now : Nat) :
    ofTask number (move.events number now) = move.events number now := by
  cases told : move.done <;> simp [Move.events, told, ofTask]

theorem ofTask_events_other (move : Move World Result) {number other : Nat} (now : Nat)
    (apart : other ≠ number) : ofTask other (move.events number now) = [] := by
  cases told : move.done <;> simp [Move.events, told, ofTask, apart.symm]

theorem deedsOf_events (move : Move World Result) (number now : Nat) :
    deedsOf (move.events number now) = (move.done.map (·.1)).toList := by
  cases told : move.done <;> simp [Move.events, told, deedsOf]

theorem outcomesOf_events (move : Move World Result) (number now : Nat) :
    outcomesOf (move.events number now) = (move.done.bind (·.2)).toList := by
  rcases told : move.done with _ | ⟨deed, _ | outcome⟩ <;>
    simp [Move.events, told, outcomesOf]

theorem ofTask_append (number : Nat) (early late : List Event) :
    ofTask number (early ++ late) = ofTask number early ++ ofTask number late :=
  List.filter_append early late

theorem outcomesOf_append (early late : List Event) :
    outcomesOf (early ++ late) = outcomesOf early ++ outcomesOf late :=
  List.filterMap_append

theorem deedsOf_append (early late : List Event) :
    deedsOf (early ++ late) = deedsOf early ++ deedsOf late :=
  List.map_append

/-- Events tell how one scene became another: what was sent and logged, and which outcomes were
taken off the script. -/
structure Tells (logger : Logger World Failure) (before : Scene World) (events : List Event)
    (after : Scene World) : Prop where
  sent : after.sent = before.sent ++ sentIn events
  log : after.log = (recordsIn logger events).foldl
    (fun log told => Logger.offer logger.sinks told.2 log) before.log
  script : after.script = before.script.drop (outcomesOf events).length
  outcomes : supply (outcomesOf events) after.outcomes = before.outcomes

namespace Tells

variable {logger : Logger World Failure} {first second third : Scene World}
  {early late : List Event}

theorem refl (logger : Logger World Failure) (scene : Scene World) : Tells logger scene [] scene :=
  ⟨(List.append_nil _).symm, rfl, rfl, rfl⟩

theorem trans (before : Tells logger first early second) (after : Tells logger second late third) :
    Tells logger first (early ++ late) third := by
  constructor
  case sent => rw [after.sent, before.sent, List.append_assoc, sentIn, sentIn, sentIn,
    List.filterMap_append]
  case log => rw [after.log, before.log, recordsIn, recordsIn, recordsIn, List.filterMap_append,
    List.foldl_append]
  case script => rw [after.script, before.script, List.drop_drop, outcomesOf_append,
    List.length_append]
  case outcomes => rw [outcomesOf_append, supply_append, after.outcomes, before.outcomes]

end Tells

theorem hear_eq_record (logger : Logger World Failure) (scene : Scene World) (remark : Remark)
    (number : Nat) :
    (scene.hear logger remark).log
      = (recordsIn logger [⟨number, scene.now, .said remark, none⟩]).foldl
          (fun log told => Logger.offer logger.sinks told.2 log) scene.log := by
  cases counts : logger.isEnabled remark.note.level with
  | true =>
    rw [Scene.hear_of_enabled counts]
    simp only [recordsIn, List.filterMap_cons, Event.record?, counts]
    rfl
  | false =>
    rw [Scene.hear_of_disabled counts]
    simp only [recordsIn, List.filterMap_cons, Event.record?, counts]
    rfl

/-- The events of a step tell what it does to the scene. -/
theorem moveOf_tells (logger : Logger World Failure) (slot : Option String) (scene : Scene World)
    (next : Exchange Result) (number : Nat) :
    let move := moveOf logger slot scene next
    Tells logger scene (move.events number scene.now) move.scene := by
  cases next with
  | finish result => exact .refl logger scene
  | remark entry next =>
    refine ⟨(List.append_nil _).symm, ?_, rfl, rfl⟩
    exact hear_eq_record logger scene { entry with requestId := slot } number
  | clock next => exact .refl logger scene
  | pause span next => exact ⟨(List.append_nil _).symm, rfl, rfl, rfl⟩
  | giveWay next => exact ⟨(List.append_nil _).symm, rfl, rfl, rfl⟩
  | send request next =>
    constructor
    case sent => exact Scene.answer_sent scene request
    case log => exact Scene.answer_log scene request
    case script => exact Scene.answer_script scene request
    case outcomes =>
      -- The outcome that was handed out and those that are left are those there were.
      show supply [(scene.answer request).1] (scene.answer request).2.outcomes = scene.outcomes
      funext i
      rw [Scene.answer_fst, Scene.answer_outcomes]
      cases i with
      | zero => rfl
      | succ i => rfl

theorem moveOf_events (logger : Logger World Failure) (slot : Option String) (scene : Scene World)
    (next : Exchange Result) (number now : Nat) :
    ∀ event ∈ (moveOf logger slot scene next).events number now,
      event.task = number ∧ event.outcome.isSome = event.deed.request?.isSome := by
  cases next with
  | finish result => exact fun _ member => nomatch member
  | remark entry next => exact List.forall_mem_singleton.mpr ⟨rfl, rfl⟩
  | clock next => exact fun _ member => nomatch member
  | pause span next => exact List.forall_mem_singleton.mpr ⟨rfl, rfl⟩
  | giveWay next => exact List.forall_mem_singleton.mpr ⟨rfl, rfl⟩
  | send request next => exact List.forall_mem_singleton.mpr ⟨rfl, rfl⟩

theorem elapse_tells (logger : Logger World Failure) (scene : Scene World) (millis : Nat) :
    Tells logger scene [] { scene with now := scene.now + millis } :=
  ⟨(List.append_nil _).symm, rfl, rfl, rfl⟩

/-- Every event is of a task there is, and has an outcome just if it is a request. -/
def Event.IsProper (tasks : List (ScopedTask Result)) (event : Event) : Prop :=
  event.task < tasks.length ∧ event.outcome.isSome = event.deed.request?.isSome

/-- What every turn keeps of a run that began with tasks and a scene. -/
structure Kept (logger : Logger World Failure) (tasks : List (ScopedTask Result))
    (scene : Scene World) (state : State World Result) : Prop where
  slot : state.slot = none
  seated : state.seats.map (·.task) = tasks
  tells : Tells logger scene state.trace state.scene
  proper : ∀ event ∈ state.trace, event.IsProper tasks
  reaches : ∀ (number : Nat) (seat : Seat Result), state.seats[number]? = some seat →
    Reaches seat.task.scope seat.task.exchange (deedsOf (ofTask number state.trace))
      (outcomesOf (ofTask number state.trace)) seat.rest

/-- A task of which all turns are accounted for by what it would do by itself. -/
structure ScopedTask.IsLexical (task : ScopedTask Result) : Prop where
  timeless : task.exchange.IsTimeless
  speaks : task.exchange.OnlyDoes (IsUnder task.scope)

theorem kept_start (logger : Logger World Failure) {tasks : List (ScopedTask Result)}
    (lexical : ∀ task ∈ tasks, task.IsLexical) (scene : Scene World) :
    Kept logger tasks scene (State.start tasks scene) := by
  constructor
  case slot => rfl
  case seated => simp [State.start, Function.comp_def]
  case tells => exact .refl logger scene
  case proper => exact fun _ member => nomatch member
  case reaches =>
    intro number seat held
    simp only [State.start, List.getElem?_map, Option.map_eq_some_iff] at held
    obtain ⟨task, inside, rfl⟩ := held
    have member := List.mem_of_getElem? inside
    exact .start (lexical task member).timeless (lexical task member).speaks

theorem Kept.takeTurn {logger : Logger World Failure} {tasks : List (ScopedTask Result)}
    {scene : Scene World} {state : State World Result} (kept : Kept logger tasks scene state)
    (turn : Turn) : Kept logger tasks scene (state.takeTurn logger turn) := by
  rcases takeTurn_cases logger state kept.slot turn with
    ⟨millis, same⟩ | ⟨number, seat, next, held, goes, same⟩
  · rw [same]
    refine ⟨kept.slot, kept.seated, ?_, kept.proper, kept.reaches⟩
    have tells := kept.tells.trans (elapse_tells logger state.scene millis)
    rwa [List.append_nil] at tells
  · rw [same]
    -- The state after a step, field by field; only the last field needs to know which step it was.
    have inside : number < state.seats.length := (List.getElem?_eq_some_iff.mp held).1
    constructor
    case slot => exact kept.slot
    case seated =>
      have bound : number < (state.seats.map Seat.task).length := by rwa [List.length_map]
      have here : (state.seats.map Seat.task)[number] = seat.task := by
        rw [List.getElem_map, (List.getElem?_eq_some_iff.mp held).2]
      rw [← kept.seated, State.after, List.map_set, ← here]
      exact List.set_getElem_self bound
    case tells => exact kept.tells.trans (moveOf_tells logger _ state.scene next number)
    case proper =>
      intro event member
      rcases List.mem_append.mp member with old | new
      · exact kept.proper event old
      · obtain ⟨own, answered⟩ := moveOf_events logger _ state.scene next number _ event new
        refine ⟨?_, answered⟩
        rwa [own, ← kept.seated, List.length_map]
    case reaches =>
      intro other sitting heldThen
      rw [after_trace, ofTask_append, deedsOf_append, outcomesOf_append]
      by_cases own : other = number
      · -- The task that moved is led on by its move.
        subst own
        rw [State.after, List.getElem?_set_self inside] at heldThen
        obtain rfl := Option.some.inj heldThen
        rw [ofTask_events_same]
        have before := kept.reaches other seat held
        rw [goes] at before
        rw [deedsOf_events, outcomesOf_events]
        exact before.move logger state.scene
      · -- Of any other task the trace tells what it told before.
        rw [ofTask_events_other _ _ own]
        rw [State.after, List.getElem?_set_ne (Ne.symm own)] at heldThen
        simpa [deedsOf, outcomesOf] using kept.reaches other sitting heldThen

theorem Kept.takeTurns {logger : Logger World Failure} {tasks : List (ScopedTask Result)}
    {scene : Scene World} {state : State World Result} (kept : Kept logger tasks scene state)
    (turns : List Turn) : Kept logger tasks scene (state.takeTurns logger turns) := by
  induction turns generalizing state with
  | nil => exact kept
  | cons turn later ih => exact ih (kept.takeTurn turn)

/-! ## What a trace tells -/

/-- Outcomes are handed out in the order of the requests, and failures once there are no more. -/
theorem Tells.given {logger : Logger World Failure} {before after : Scene World}
    {trace : List Event} (tells : Tells logger before trace after) :
    let count := (outcomesOf trace).length
    outcomesOf trace
      = before.script.take count
        ++ List.replicate (count - before.script.length) Scene.exhausted := by
  intro count
  apply List.ext_getElem?
  intro i
  by_cases inside : i < count
  · -- What was handed out is what the stream of the scene has at that place.
    have same : (outcomesOf trace)[i] = before.script.getD i Scene.exhausted := by
      have told := congrFun tells.outcomes i
      rw [supply, List.getElem?_eq_getElem inside] at told
      exact told
    rw [List.getElem?_eq_getElem inside, same, List.getD_eq_getElem?_getD]
    by_cases scripted : i < before.script.length
    · have taken : i < (before.script.take count).length := by
        rw [List.length_take]
        exact Nat.lt_min.mpr ⟨inside, scripted⟩
      rw [List.getElem?_append_left taken, List.getElem?_take_of_lt inside,
        List.getElem?_eq_getElem scripted, Option.getD_some]
    · have outside : before.script.length ≤ i := Nat.le_of_not_lt scripted
      have short : before.script.take count = before.script :=
        List.take_of_length_le (Nat.le_of_lt (Nat.lt_of_le_of_lt outside inside))
      rw [short, List.getElem?_append_right outside, List.getElem?_replicate,
        if_pos (Nat.sub_lt_sub_right outside inside), List.getElem?_eq_none outside,
        Option.getD_none]
  · rw [List.getElem?_eq_none (Nat.le_of_not_lt inside), List.getElem?_eq_none]
    rw [List.length_append, List.length_take, List.length_replicate]
    omega

/-- Every request of proper events has its outcome. -/
theorem sentIn_length {tasks : List (ScopedTask Result)} {trace : List Event}
    (proper : ∀ event ∈ trace, event.IsProper tasks) :
    (sentIn trace).length = (outcomesOf trace).length
      ∧ (requestsOf (deedsOf trace)).length = (outcomesOf trace).length := by
  induction trace with
  | nil => exact ⟨rfl, rfl⟩
  | cons event rest ih =>
    obtain ⟨⟨_, answered⟩, proper⟩ := List.forall_mem_cons.mp proper
    obtain ⟨sent, requests⟩ := ih proper
    obtain ⟨task, moment, deed, outcome⟩ := event
    -- Either both counts grow or neither does, since a proper event has an outcome as it should.
    cases request : deed.request? <;> cases outcome <;>
      simp_all [sentIn, outcomesOf, requestsOf, deedsOf]

namespace Kept

variable {logger : Logger World Failure} {tasks : List (ScopedTask Result)} {scene : Scene World}
  {state : State World Result}

theorem seat_of_task (kept : Kept logger tasks scene state) {number : Nat}
    {task : ScopedTask Result} (here : tasks[number]? = some task) :
    ∃ seat, state.seats[number]? = some seat ∧ seat.task = task := by
  rw [← kept.seated, List.getElem?_map, Option.map_eq_some_iff] at here
  exact here

/-- What a task has done is how its history begins on the outcomes that it was given. -/
theorem deeds_begin (kept : Kept logger tasks scene state) {number : Nat} {task : ScopedTask Result}
    (here : tasks[number]? = some task) (later : Nat → Outcome) (now : Nat) :
    let own := ofTask number state.trace
    deedsOf own <+: (task.exchange.history (supply (outcomesOf own) later) now).1 := by
  intro own
  obtain ⟨seat, held, rfl⟩ := kept.seat_of_task here
  rw [(kept.reaches number seat held).history later now]
  exact List.prefix_append _ _

/-- A task that is done has done what it does by itself on the outcomes that it was given. -/
theorem history_of_result (kept : Kept logger tasks scene state) {number : Nat}
    {task : ScopedTask Result} {result : Result} (here : tasks[number]? = some task)
    (done : state.results[number]? = some (some result)) (later : Nat → Outcome) (now : Nat) :
    let own := ofTask number state.trace
    task.exchange.history (supply (outcomesOf own) later) now = (deedsOf own, result) := by
  obtain ⟨seat, held, rfl⟩ := kept.seat_of_task here
  rw [State.results, List.getElem?_map, held, Option.map_some, Option.some.injEq] at done
  have ended : seat.rest = .finish result := by
    obtain ⟨task, standing⟩ := seat
    rcases standing with _ | standing
    · cases done
    · cases standing with
      | done last => exact congrArg Exchange.finish (Option.some.inj done)
      | waiting moment rest => cases done
      | aside rest => cases done
  have told := (kept.reaches number seat held).history later now
  rw [ended] at told
  simpa [Exchange.history] using told

/-- A task does nothing in turns that it does not do by itself. -/
theorem deed_kind (kept : Kept logger tasks scene state) {event : Event}
    (member : event ∈ state.trace) {kind : Deed → Prop} {task : ScopedTask Result}
    (here : tasks[event.task]? = some task) (only : task.exchange.OnlyDoes kind) :
    kind event.deed := by
  -- The event is among the deeds that its own task has done, and these begin a history of it.
  have does := only.history
    (supply (outcomesOf (ofTask event.task state.trace)) fun _ => Scene.exhausted) 0
  apply does
  apply (kept.deeds_begin here _ 0).subset
  refine List.mem_map_of_mem (List.mem_filter.mpr ⟨member, ?_⟩)
  exact beq_self_eq_true _

end Kept

theorem remark_of_record {logger : Logger World Failure} {event : Event} {record : Record}
    (logged : event.record? logger = some record) :
    ∃ remark, event.deed = .said remark ∧ record.requestId = remark.requestId := by
  obtain ⟨task, moment, deed, outcome⟩ := event
  cases deed with
  | said remark =>
    simp only [Event.record?] at logged
    split at logged
    · obtain rfl := Option.some.inj logged
      exact ⟨remark, rfl, rfl⟩
    · cases logged
  | sent request => cases logged
  | paused span => cases logged
  | gaveWay => cases logged

end Gatehouse.Interleaving
