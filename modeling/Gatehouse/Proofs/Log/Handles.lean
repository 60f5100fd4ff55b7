import Gatehouse.Proofs.Log.Noninterference
import Mathlib.Data.List.Nodup

/-!
# Handles of one logger

A program keeps handles under names, derives labelled ones from those it has, and logs through any
of them. Whatever it does with them, each sink is offered one record for each call that counts, in
the order of the calls and under the last label on the way to the handle. What a sink answers, and
what is derived besides, makes no difference.
-/
namespace Gatehouse

/-- A step of a program with handles: it derives a handle and keeps it under a name, which may have
held another one before, or it logs. -/
inductive HandleStep
  | derive (source target label : String)
  | log (handle : String) (ambient : Option String) (now : Timestamp) (note : Note)

namespace HandleStep

/-- The labels on the way from the logger to the handle of a name, given the steps so far with the
last one first. -/
def pathAfter : List HandleStep → String → List String
  | [], _ => []
  | .derive source target label :: earlier, name =>
    if name = target then pathAfter earlier source ++ [label] else pathAfter earlier name
  | .log .. :: earlier, name => pathAfter earlier name

/-- The calls among steps, each with the last label on the way to its handle. -/
def callsFrom (earlier : List HandleStep) : List HandleStep → List LogCall
  | [] => []
  | .derive source target label :: rest => callsFrom (.derive source target label :: earlier) rest
  | .log handle ambient now note :: rest =>
    ⟨(pathAfter earlier handle).getLast?, ambient, now, note⟩
      :: callsFrom (.log handle ambient now note :: earlier) rest

/-- Whether steps need the handle that a name holds before them. -/
def Uses (name : String) : List HandleStep → Prop
  | [] => False
  | .derive source target _ :: rest => source = name ∨ (target ≠ name ∧ Uses name rest)
  | .log handle .. :: rest => handle = name ∨ Uses name rest

/-- Calls depend on the paths of the handles that are used, and on nothing else before them. -/
theorem callsFrom_congr {earlier other : List HandleStep} (steps : List HandleStep)
    (same : ∀ name, Uses name steps → pathAfter earlier name = pathAfter other name) :
    callsFrom earlier steps = callsFrom other steps := by
  induction steps generalizing earlier other with
  | nil => rfl
  | cons step rest ih =>
    cases step with
    | derive source target label =>
      apply ih
      intro name used
      simp only [pathAfter]
      split
      · rw [same source (.inl rfl)]
      next differs => exact same name (.inr ⟨Ne.symm differs, used⟩)
    | log handle ambient now note =>
      have first := same handle (.inl rfl)
      simp only [callsFrom, first, List.cons.injEq, true_and]
      exact ih fun name used => same name (.inr used)

/-- A handle that is not used leaves no trace in the calls. -/
theorem callsFrom_unused {target : String} {after : List HandleStep} (unused : ¬Uses target after)
    (earlier before : List HandleStep) (source label : String) :
    callsFrom earlier (before ++ .derive source target label :: after)
      = callsFrom earlier (before ++ after) := by
  induction before generalizing earlier with
  | nil =>
    refine callsFrom_congr after fun name used => ?_
    have differs : name ≠ target := fun equal => unused (equal ▸ used)
    simp only [pathAfter, if_neg differs]
  | cons step rest ih =>
    cases step with
    | derive => exact ih _
    | log => exact congrArg (_ :: ·) (ih _)

end HandleStep

/-- What a record says of the call that it was made for. -/
structure LogCall.IsToldBy (call : LogCall) (record : Record) : Prop where
  level : record.level = call.note.level
  message : record.message = call.note.message
  trace : record.trace = call.note.trace
  context : record.context = call.label
  requestId : record.requestId = call.ambient
  metadata : record.metadata
    = ((call.note.metadata.map Record.metadataOf).map Redaction.redactFields).getD []
  time : record.time = call.now

/-- The sink with other answers to what is written to it. -/
def Sink.answering {World Failure : Type} (sink : Sink World Failure)
    (answers : Record → World → Except Failure Unit) : Sink World Failure :=
  { sink with write := fun record world => (answers record world, (sink.write record world).2) }

namespace Logger

open HandleStep

variable {World Failure : Type}

/-- Runs steps on the handles that names hold. -/
def play (handles : String → Logger World Failure) : List HandleStep → World → World
  | [], world => world
  | .derive source target label :: rest, world =>
    let derived := (handles source).withContext label
    play (fun name => if name = target then derived else handles name) rest world
  | .log handle ambient now note :: rest, world =>
    play handles rest ((handles handle).log ambient now note world)

/-- The logger with other answers of its sinks. -/
def answering (logger : Logger World Failure)
    (answers : Sink World Failure → Record → World → Except Failure Unit) :
    Logger World Failure :=
  { logger with sinks := logger.sinks.map fun sink => sink.answering (answers sink) }

/-- The records that the sink at a place is offered while steps are run, from names that all hold
the logger. -/
def offered (logger : Logger World Failure) (steps : List HandleStep) (world : World)
    (place : Nat) : List Record :=
  ((play (fun _ => logger.watched) steps (world, [])).2.filter (·.1 = place)).map (·.2)

/-! ## Runs as calls -/

/-- Handles share all of the logger but their label, which is the last one on their way. -/
theorem play_eq_logAll (logger : Logger World Failure) (earlier steps : List HandleStep)
    (handles : String → Logger World Failure) (world : World)
    (labelled : ∀ name,
      handles name = { logger with context := (pathAfter earlier name).getLast? }) :
    play handles steps world = logger.logAll (callsFrom earlier steps) world := by
  induction steps generalizing earlier handles world with
  | nil => rfl
  | cons step rest ih =>
    cases step with
    | derive source target label =>
      apply ih
      intro name
      simp only [pathAfter]
      split
      · rw [labelled source, List.getLast?_concat, withContext]
      · exact labelled name
    | log handle ambient now note =>
      rw [play, labelled handle, ih (.log handle ambient now note :: earlier) handles _ labelled]
      rfl

theorem play_root (logger : Logger World Failure) (unlabelled : logger.context = none)
    (steps : List HandleStep) (world : World) :
    play (fun _ => logger) steps world = logger.logAll (callsFrom [] steps) world := by
  apply play_eq_logAll
  intro name
  simp only [pathAfter, List.getLast?_nil, ← unlabelled]

/-! ## What sinks are offered -/

/-- Of what a call delivers, each sink gets its record once, if the call counts. -/
theorem delivered_filter (logger : Logger World Failure) (call : LogCall) {place : Nat}
    (inside : place < logger.sinks.length) :
    ((logger.delivered call).filter (·.1 = place)).map (·.2)
      = if logger.isEnabled call.note.level then [call.record] else [] := by
  rw [delivered]
  split
  · have once : (List.range' 0 logger.sinks.length).filter (· = place) = [place] := by
      rw [← List.range_eq_range', List.filter_eq, List.count_eq_one_of_mem List.nodup_range
        (List.mem_range.mpr inside)]
      rfl
    rw [List.filter_map, List.map_map]
    simp only [Function.comp_def, once, List.map_cons, List.map_nil]
  · rfl

theorem offered_eq (logger : Logger World Failure) (unlabelled : logger.context = none)
    (steps : List HandleStep) (world : World) {place : Nat} (inside : place < logger.sinks.length) :
    logger.offered steps world place
      = ((callsFrom [] steps).filter (logger.isEnabled ·.note.level)).map LogCall.record := by
  rw [offered, play_root logger.watched unlabelled]
  have delivered := logger.deliveries_eq (callsFrom [] steps) world
  rw [deliveries] at delivered
  rw [delivered]
  induction callsFrom [] steps with
  | nil => rfl
  | cons call rest ih =>
    rw [List.flatMap_cons, List.filter_append, List.map_append, ih,
      delivered_filter logger call inside, List.filter_cons]
    split <;> rfl

theorem record_isToldBy (call : LogCall) : call.IsToldBy call.record := by
  refine ⟨rfl, rfl, rfl, rfl, rfl, ?_, rfl⟩
  rw [LogCall.record, recordOf]
  cases call.note.metadata <;> rfl

/-! ## What sinks answer -/

theorem perform_answering (answers : Sink World Failure → Record → World → Except Failure Unit)
    (logger : Logger World Failure) (world : World) (call : LogCall) :
    (logger.answering answers).perform world call = logger.perform world call := by
  have offers : offer (logger.answering answers).sinks call.record world
      = offer logger.sinks call.record world := by
    simp only [answering, offer, List.foldl_map, Sink.answering]
  rw [perform_eq_ite, perform_eq_ite, offers]
  rfl

theorem logAll_answering (answers : Sink World Failure → Record → World → Except Failure Unit)
    (logger : Logger World Failure) (calls : List LogCall) (world : World) :
    (logger.answering answers).logAll calls world = logger.logAll calls world := by
  induction calls generalizing world with
  | nil => rfl
  | cons call rest ih =>
    simp only [logAll, List.foldl_cons, perform_answering] at ih ⊢
    exact ih _

/-! ## The whole run -/

/-- Whatever handles a program derives and through which of them it logs, every sink is offered one
record for each call whose level is at least as grave as the minimum, in the order of the calls. The
record has the call's level, message, trace, request id and redacted metadata, and the label that was
given last on the way to the handle. Neither the other sinks nor handles that are not used change
what a sink is offered. What sinks answer reaches nobody: the run is the same with other answers. -/
theorem sinks_are_offered_calls (minimum : Level) (sinks : List (Sink World Failure))
    (steps : List HandleStep) (world : World) :
    let root : Logger World Failure := ⟨minimum, sinks, none⟩
    let calls := (callsFrom [] steps).filter fun call => call.note.level.rank ≤ minimum.rank
    (∀ place < sinks.length,
      List.Forall₂ LogCall.IsToldBy calls (root.offered steps world place))
    ∧ (∀ (OtherWorld OtherFailure : Type) (others : List (Sink OtherWorld OtherFailure))
        (otherWorld : OtherWorld), ∀ place < sinks.length, ∀ other < others.length,
        offered ⟨minimum, others, none⟩ steps otherWorld other = root.offered steps world place)
    ∧ (∀ before after source target label, steps = before ++ after → ¬Uses target after →
        play (fun _ => root) (before ++ .derive source target label :: after) world
            = play (fun _ => root) steps world
        ∧ ∀ place < sinks.length,
          root.offered (before ++ .derive source target label :: after) world place
            = root.offered steps world place)
    ∧ (play (fun _ => root.watched) steps (world, [])).1 = play (fun _ => root) steps world
    ∧ ∀ answers, play (fun _ => root.answering answers) steps world
        = play (fun _ => root) steps world := by
  intro root calls
  have each : ∀ place < sinks.length,
      root.offered steps world place = calls.map LogCall.record := fun place inside =>
    offered_eq root rfl steps world inside
  refine ⟨?_, ?_, ?_, ?_, ?_⟩
  · intro place inside
    rw [each place inside, List.forall₂_map_right_iff, List.forall₂_same]
    exact fun call _ => record_isToldBy call
  · intro OtherWorld OtherFailure others otherWorld place inside other within
    rw [each place inside]
    exact offered_eq ⟨minimum, others, none⟩ rfl steps otherWorld within
  · rintro before after source target label rfl unused
    have same := callsFrom_unused unused [] before source label
    constructor
    · rw [play_root root rfl, play_root root rfl, same]
    · intro place inside
      rw [offered_eq root rfl _ world inside, offered_eq root rfl _ world inside, same]
  · rw [play_root root rfl, play_root root.watched rfl, watched_logAll_world]
  · intro answers
    rw [play_root root rfl, play_root (root.answering answers) rfl, logAll_answering]

/-- A chain of two labelled handles next to the logger itself, with a sink that refuses everything
in front: the other sink gets the three calls that count, each under the last label of its handle,
and a handle derived in between that nobody uses changes nothing. -/
theorem sinks_are_offered_calls_behind_refusals :
    let note (level : Level) : Note := ⟨level, "m", none, none⟩
    let before : List HandleStep :=
      [.derive "root" "auth" "Auth", .derive "auth" "token" "Token",
        .log "auth" (some "req-1") ⟨0, 0⟩ (note .warn)]
    let after : List HandleStep :=
      [.log "token" (some "req-2") ⟨1, 0⟩ (note .info), .log "root" none ⟨2, 0⟩ (note .debug),
        .log "root" none ⟨3, 0⟩ (note .error)]
    let root : Logger Captures Unit := ⟨.info, [.refuse, .capture 0], none⟩
    (root.offered (before ++ .derive "token" "auth" "Other" :: after) [[]] 1).map
        (fun record => (record.context, record.requestId))
      = [(some "Auth", some "req-1"), (some "Token", some "req-2"), (none, none)] := by
  intro note before after root
  have run := sinks_are_offered_calls .info [.refuse, .capture 0] (before ++ after) [[]]
  have unused : ¬Uses "auth" after := by simp [Uses, after]
  rw [(run.2.2.1 before after "token" "auth" "Other" rfl unused).2 1 (by decide)]
  decide +kernel

end Logger

end Gatehouse
