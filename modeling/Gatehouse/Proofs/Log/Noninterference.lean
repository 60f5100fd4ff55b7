import Gatehouse.Log.Capture
import Gatehouse.Proofs.Log.Redaction
import Mathlib.Data.List.Forall2

/-!
# What sinks can tell of metadata

Every sink of a logger is watched while records are offered to it. Two runs of calls whose metadata
are alike deliver the same records to the same sinks in the same order, whatever the sinks do with
them; only the moments may show.
-/
namespace Gatehouse

/-- A call on a handle of a logger, with the request id and the moment around it. -/
structure LogCall where
  label : Option String
  ambient : Option String
  now : Timestamp
  note : Note

def Record.timeless (record : Record) : Record := { record with time := ⟨0, 0⟩ }

namespace LogCall

def record (call : LogCall) : Record :=
  Logger.recordOf call.label call.ambient call.now call.note

def IsFormed (call : LogCall) : Prop := ∀ value ∈ call.note.metadata, value.WellFormed

/-- Calls that differ in their moments and in sensitive metadata only. -/
structure Alike (call other : LogCall) : Prop where
  label : call.label = other.label
  ambient : call.ambient = other.ambient
  level : call.note.level = other.note.level
  message : call.note.message = other.note.message
  trace : call.note.trace = other.note.trace
  metadata : Option.Rel Redaction.Alike call.note.metadata other.note.metadata

end LogCall

namespace Logger

variable {World Failure : Type}

/-- A call on the handle of a logger that has its label. -/
def perform (logger : Logger World Failure) (world : World) (call : LogCall) : World :=
  { logger with context := call.label }.log call.ambient call.now call.note world

def logAll (logger : Logger World Failure) (calls : List LogCall) (world : World) : World :=
  calls.foldl logger.perform world

/-- The sink at a place, with a list of what is delivered. -/
def watch (sink : Sink World Failure) (place : Nat) :
    Sink (World × List (Nat × Record)) Failure where
  write := fun record (world, seen) =>
    let (result, world) := sink.write record world
    (result, world, seen ++ [(place, record)])
  flush := fun (world, seen) =>
    let (result, world) := sink.flush world
    (result, world, seen)

def watched (logger : Logger World Failure) :
    Logger (World × List (Nat × Record)) Failure where
  minimum := logger.minimum
  sinks := logger.sinks.zipIdx.map fun (sink, place) => watch sink place
  context := logger.context

/-- What the sinks receive in a run: their places with the records, in order. -/
def deliveries (logger : Logger World Failure) (calls : List LogCall) (world : World) :
    List (Nat × Record) :=
  (logger.watched.logAll calls (world, [])).2

/-! ## Deliveries of a run -/

theorem offer_watch (sinks : List (Sink World Failure)) (record : Record) (world : World)
    (seen : List (Nat × Record)) (first : Nat) :
    offer ((sinks.zipIdx first).map fun (sink, place) => watch sink place) record (world, seen)
      = (offer sinks record world,
          seen ++ (List.range' first sinks.length).map (·, record)) := by
  induction sinks generalizing world seen first with
  | nil => simp [offer]
  | cons sink rest ih =>
    have below := ih (sink.write record world).2 (seen ++ [(first, record)]) (first + 1)
    simp only [offer, List.zipIdx_cons, List.map_cons, List.foldl_cons] at below ⊢
    simp only [watch] at below ⊢
    rw [below]
    simp [List.range'_succ]

/-- What one call delivers. -/
def delivered (logger : Logger World Failure) (call : LogCall) : List (Nat × Record) :=
  if logger.isEnabled call.note.level then
    (List.range' 0 logger.sinks.length).map (·, call.record)
  else []

theorem perform_eq_ite (logger : Logger World Failure) (world : World) (call : LogCall) :
    logger.perform world call
      = if logger.isEnabled call.note.level then offer logger.sinks call.record world
        else world := rfl

theorem watched_perform (logger : Logger World Failure) (call : LogCall) (world : World)
    (seen : List (Nat × Record)) :
    logger.watched.perform (world, seen) call
      = (logger.perform world call, seen ++ logger.delivered call) := by
  have watched : logger.watched.perform (world, seen) call
      = if logger.isEnabled call.note.level then
          offer logger.watched.sinks call.record (world, seen)
        else (world, seen) := rfl
  rw [watched, perform_eq_ite, delivered]
  split
  · exact offer_watch logger.sinks call.record world seen 0
  · rw [List.append_nil]

theorem watched_logAll (logger : Logger World Failure) (calls : List LogCall) (world : World)
    (seen : List (Nat × Record)) :
    logger.watched.logAll calls (world, seen)
      = (logger.logAll calls world, seen ++ calls.flatMap logger.delivered) := by
  induction calls generalizing world seen with
  | nil => simp [logAll]
  | cons call rest ih =>
    simp only [logAll, List.foldl_cons, List.flatMap_cons, watched_perform] at ih ⊢
    rw [← List.append_assoc, ih]

/-- Watching changes nothing that the sinks do. -/
theorem watched_logAll_world (logger : Logger World Failure) (calls : List LogCall)
    (world : World) : (logger.watched.logAll calls (world, [])).1 = logger.logAll calls world := by
  rw [watched_logAll]

theorem deliveries_eq (logger : Logger World Failure) (calls : List LogCall) (world : World) :
    logger.deliveries calls world = calls.flatMap logger.delivered := by
  rw [deliveries, watched_logAll, List.nil_append]

/-! ## Alike calls -/

theorem cleanMetadata_eq {metadata other : Option Json}
    (alike : Option.Rel Redaction.Alike metadata other)
    (formed : ∀ value ∈ metadata, value.WellFormed)
    (formedOther : ∀ value ∈ other, value.WellFormed) :
    cleanMetadata metadata = cleanMetadata other := by
  cases alike with
  | none => rfl
  | @some value other alike =>
    have same := Redaction.redact_eq_of_alike alike (formed value rfl) (formedOther other rfl)
    -- An object is its own metadata; any other value but null becomes a field of one.
    cases alike with
    | object keys inside => exact Json.object.inj same
    | array length inside =>
      simp only [cleanMetadata, Record.metadataOf, Redaction.redactFields, same]
    | _ => rfl

theorem timeless_record_eq {call other : LogCall} (alike : call.Alike other)
    (formed : call.IsFormed) (formedOther : other.IsFormed) :
    call.record.timeless = other.record.timeless := by
  have metadata := cleanMetadata_eq alike.metadata formed formedOther
  simp only [LogCall.record, recordOf, Record.timeless, alike.label, alike.ambient, alike.level,
    alike.message, alike.trace, metadata]

theorem delivered_eq (logger : Logger World Failure) {call other : LogCall}
    (alike : call.Alike other) (formed : call.IsFormed) (formedOther : other.IsFormed) :
    (logger.delivered call).map (fun delivery => (delivery.1, delivery.2.timeless))
      = (logger.delivered other).map fun delivery => (delivery.1, delivery.2.timeless) := by
  have same := timeless_record_eq alike formed formedOther
  simp only [delivered, alike.level]
  split
  · simp only [List.map_map, Function.comp_def, same]
  · rfl

/-- A call leaves the same world as an alike one of the same moment. -/
theorem perform_eq (logger : Logger World Failure) {call other : LogCall} (alike : call.Alike other)
    (formed : call.IsFormed) (formedOther : other.IsFormed) (now : call.now = other.now)
    (world : World) : logger.perform world call = logger.perform world other := by
  have metadata := cleanMetadata_eq alike.metadata formed formedOther
  have record : call.record = other.record := by
    simp only [LogCall.record, recordOf, alike.label, alike.ambient, alike.level, alike.message,
      alike.trace, metadata, now]
  rw [perform_eq_ite, perform_eq_ite, record, alike.level]

/-! ## Alike runs -/

theorem deliveries_timeless_eq (logger : Logger World Failure) {calls others : List LogCall}
    (alike : List.Forall₂ LogCall.Alike calls others) (formed : ∀ call ∈ calls, call.IsFormed)
    (formedOthers : ∀ call ∈ others, call.IsFormed) (world otherWorld : World) :
    (logger.deliveries calls world).map (fun delivery => (delivery.1, delivery.2.timeless))
      = (logger.deliveries others otherWorld).map
          fun delivery => (delivery.1, delivery.2.timeless) := by
  rw [deliveries_eq, deliveries_eq]
  induction alike with
  | nil => rfl
  | @cons call other rest otherRest first _ ih =>
    rw [List.forall_mem_cons] at formed formedOthers
    rw [List.flatMap_cons, List.flatMap_cons, List.map_append, List.map_append,
      delivered_eq logger first formed.1 formedOthers.1, ih formed.2 formedOthers.2]

theorem logAll_eq (logger : Logger World Failure) {calls others : List LogCall}
    (alike : List.Forall₂ LogCall.Alike calls others) (formed : ∀ call ∈ calls, call.IsFormed)
    (formedOthers : ∀ call ∈ others, call.IsFormed)
    (moments : calls.map (·.now) = others.map (·.now)) (world : World) :
    logger.logAll calls world = logger.logAll others world := by
  induction alike generalizing world with
  | nil => rfl
  | @cons call other rest otherRest first _ ih =>
    rw [List.forall_mem_cons] at formed formedOthers
    obtain ⟨now, later⟩ := List.cons.inj moments
    have step := perform_eq logger first formed.1 formedOthers.1 now world
    have run := ih formed.2 formedOthers.2 later (logger.perform world other)
    simpa only [logAll, List.foldl_cons, step] using run

/-- Redaction hides all that stands under sensitive keys and nothing else. So runs of calls that
differ there and in their moments only deliver the same to every sink but for the moments, and leave
the same world if the moments agree too. -/
theorem redaction_is_exact :
    (∀ value other : Json, value.WellFormed → other.WellFormed →
      (Redaction.redact value = Redaction.redact other ↔ Redaction.Alike value other))
    ∧ ∀ (World Failure : Type) (logger : Logger World Failure) (calls others : List LogCall),
      (∀ call ∈ calls, call.IsFormed) → (∀ call ∈ others, call.IsFormed) →
      List.Forall₂ LogCall.Alike calls others →
        (∀ world otherWorld,
          (logger.deliveries calls world).map (fun delivery => (delivery.1, delivery.2.timeless))
            = (logger.deliveries others otherWorld).map
                fun delivery => (delivery.1, delivery.2.timeless))
        ∧ (calls.map (·.now) = others.map (·.now) →
          ∀ world, logger.logAll calls world = logger.logAll others world) := by
  refine ⟨fun value other => Redaction.redact_eq_iff, ?_⟩
  intro World Failure logger calls others formed formedOthers alike
  exact ⟨deliveries_timeless_eq logger alike formed formedOthers,
    logAll_eq logger alike formed formedOthers⟩

/-- Calls with passwords inside a list, which is no object: the passwords do not show. -/
theorem redaction_is_exact_of_passwords :
    let value (password : String) : Json :=
      .array [.object [("name", .string "ada"), ("password", .string password)]]
    let call (password : String) (second : Int) : LogCall :=
      ⟨some "auth", none, ⟨second, 0⟩, ⟨.warn, "denied", none, some (value password)⟩⟩
    let logger : Logger Captures Unit := ⟨.info, [.refuse, .capture 0], none⟩
    Redaction.Alike (value "one") (value "two")
      ∧ (logger.deliveries [call "one" 0] [[]]).map
            (fun delivery => (delivery.1, delivery.2.timeless))
        = (logger.deliveries [call "two" 1] [[]]).map
            fun delivery => (delivery.1, delivery.2.timeless) := by
  intro value call logger
  have formed : ∀ password, (value password).WellFormed := by
    intro password
    refine .array fun item member => ?_
    obtain rfl := List.mem_singleton.mp member
    have ascending : "name" < "password" := by decide
    refine .object (List.pairwise_pair.mpr ascending) fun field member => ?_
    rcases List.mem_cons.mp member with rfl | member
    · exact .string "ada"
    · obtain rfl := List.mem_singleton.mp member
      exact .string password
  have sensitive : Redaction.isSensitive "password" = true := by decide +kernel
  have alike := (redaction_is_exact.1 (value "one") (value "two") (formed _) (formed _)).mp
    (by simp [value, Redaction.redact, Redaction.redactItems, Redaction.redactFields, sensitive])
  have calls : ∀ password second, ∀ made ∈ [call password second], made.IsFormed := by
    intro password second made member
    obtain rfl := List.mem_singleton.mp member
    intro held metadata
    obtain rfl := Option.some.inj metadata
    exact formed password
  have runs := redaction_is_exact.2 Captures Unit logger [call "one" 0] [call "two" 1] (calls _ _)
    (calls _ _) (.cons ⟨rfl, rfl, rfl, rfl, rfl, .some alike⟩ .nil)
  exact ⟨alike, runs.1 [[]] [[]]⟩

end Logger

end Gatehouse
