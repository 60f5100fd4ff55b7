import Gatehouse.Proofs.Http.Deeds
import Gatehouse.Proofs.Inbound.Service

/-!
# Layers around a handler

A handler may stand in several layers. The outermost of them picks the id and puts it in the
request, so the next one is sent that very id and takes it over: all of them serve the request
under the id of the outermost.
-/
namespace Gatehouse.Inbound

variable {Failure Body : Type}

/-- A layer as a request finds it: whether it tells of requests, and the id that it would make. -/
structure Layer where
  logs : Bool
  fresh : String

/-- A handler in layers, the outermost first. -/
def layered (layers : List Layer) (inside : Handler Failure Body) : Handler Failure Body :=
  layers.foldr (fun layer inner => withRequestId layer.logs layer.fresh inner) inside

/-! ## Headers and replies that are stamped again -/

theorem IsStamped.trans {id : String} {first second third : HeaderMap}
    (early : IsStamped id first second) (late : IsStamped id second third) :
    IsStamped id first third :=
  ⟨late.id, late.others.trans early.others⟩

theorem IsAnswer.trans {id : String} {first second third : Reply Body}
    (early : IsAnswer id first second) (late : IsAnswer id second third) :
    IsAnswer id first third :=
  ⟨late.status.trans early.status, late.body.trans early.body, early.headers.trans late.headers⟩

/-! ## What layers do -/

/-- What becomes of the deeds and the result inside layers: a failure passes, a reply is stamped,
and what is told of it comes last and bears the id. -/
inductive Passes (id : String) :
    List Deed × Except Failure (Reply Body) → List Deed × Except Failure (Reply Body) → Prop
  | failed (deeds : List Deed) (failure : Failure) :
      Passes id (deeds, .error failure) (deeds, .error failure)
  | replied (deeds : List Deed) {records : List Deed} {reply answer : Reply Body} :
      (∀ record ∈ records, ∃ note, record = .said ⟨label, some id, note⟩) →
      IsAnswer id reply answer →
      Passes id (deeds, .ok reply) (deeds ++ records, .ok answer)

namespace Passes

variable {id : String} {first second third : List Deed × Except Failure (Reply Body)}

theorem trans (early : Passes id first second) (late : Passes id second third) :
    Passes id first third := by
  cases early with
  | failed deeds failure => exact late
  | replied deeds told answers =>
    cases late with
    -- The outer layers tell of the reply after the inner ones, and stamp what those stamped.
    | replied _ more again =>
      rw [List.append_assoc]
      exact .replied deeds (List.forall_mem_append.mpr ⟨told, more⟩) (answers.trans again)

/-- Layers bear the id in what they tell, so all is under the id if all inside them is. -/
theorem bears (passes : Passes id first second)
    (inside : ∀ deed ∈ first.1, deed.Bears (some id) (some id)) :
    ∀ deed ∈ second.1, deed.Bears (some id) (some id) := by
  cases passes with
  | failed deeds failure => exact inside
  | replied deeds told answers =>
    refine List.forall_mem_append.mpr ⟨inside, fun record member => ?_⟩
    obtain ⟨note, rfl⟩ := told record member
    rfl

theorem stamps (passes : Passes id first second) {answer : Reply Body}
    (replied : second.2 = .ok answer) :
    answer.headers.valuesOf Headers.requestId = [bytesOf id] := by
  cases passes with
  | failed deeds failure => cases replied
  | replied deeds told answers =>
    cases replied
    exact answers.headers.id

end Passes

/-- A layer passes on what its handler does under the id that it picks. -/
theorem passes_withRequestId (layer : Layer) {id : String} (clean : IsClean id)
    (inside : Handler Failure Body) (outer : Option String) {request : Inquiry}
    (picks : (sentId? request.headers).getD layer.fresh = id) (outcomes : Nat → Outcome)
    (now : Nat) :
    Passes id
      ((inside (some id) { request with headers := stamp id request.headers }).history outcomes now)
      ((withRequestId layer.logs layer.fresh inside outer request).history outcomes now) := by
  obtain ⟨elapsed, told⟩ :=
    service_history layer.logs layer.fresh inside outer request outcomes now
  rw [picks] at told
  rw [told]
  obtain ⟨deeds, result⟩ :=
    (inside (some id) { request with headers := stamp id request.headers }).history outcomes now
  cases result with
  | error failure => exact .failed deeds failure
  | ok reply =>
    refine .replied deeds (fun record member => ?_) ⟨rfl, rfl, isStamped_stamp clean reply.headers⟩
    rw [completion] at member
    split at member
    · exact ⟨_, List.mem_singleton.mp member⟩
    · cases member

/-- Whether layers serve a request under an id: whatever is inside them is asked under the id, by
the request with the id in its headers, and they pass on what it does. -/
def ServeUnder (Failure Body : Type) (id : String) (layers : List Layer) (request : Inquiry) :
    Prop :=
  ∃ headers, IsStamped id request.headers headers ∧
    ∀ (inside : Handler Failure Body) outer outcomes now,
      Passes id ((inside (some id) { request with headers := headers }).history outcomes now)
        ((layered layers inside outer request).history outcomes now)

/-- All layers serve a request under the id that the outermost picks. -/
theorem layers_serveUnder {id : String} (clean : IsClean id) (outermost : Layer)
    (others : List Layer) (request : Inquiry)
    (picks : (sentId? request.headers).getD outermost.fresh = id) :
    ServeUnder Failure Body id (outermost :: others) request := by
  induction others generalizing outermost request with
  | nil =>
    refine ⟨stamp id request.headers, isStamped_stamp clean _, ?_⟩
    intro inside outer outcomes now
    exact passes_withRequestId outermost clean inside outer picks outcomes now
  | cons next others ih =>
    -- The next layer is sent the id, and it is an id as services use it.
    have stamped := isStamped_stamp clean request.headers
    have sent := sentId?_of_valuesOf clean stamped.id
    have again : (sentId? (stamp id request.headers)).getD next.fresh = id := by
      rw [sent, Option.getD_some]
    obtain ⟨headers, twice, passes⟩ :=
      ih next { request with headers := stamp id request.headers } again
    refine ⟨headers, stamped.trans twice, ?_⟩
    intro inside outer outcomes now
    exact (passes inside (some id) outcomes now).trans
      (passes_withRequestId outermost clean _ outer picks outcomes now)

end Gatehouse.Inbound
