import Gatehouse.Inbound.Service
import Gatehouse.Proofs.Ambient.Scopes

/-!
# Handlers that look around themselves

A handler finds out what surrounds it by steps of a program, which take their turns among the steps
of others. A routine is a handler given in that way: by its steps, and by what it does once it knows
what they saw. A service around a routine is a routine again, and its only step is a scope under the
id of the request. So the id that a service hands to its handler is the one that the slot machine
shows in that scope, under every schedule.
-/
namespace Gatehouse.Inbound

open Ambient (Step Trace)

variable {Failure Body : Type}

/-- The steps that are taken for a request, and what is done given what they saw. -/
structure Routine (Failure Body : Type) where
  steps : Inquiry → List (Step String)
  react : List (Trace String) → Inquiry → Exchange (Except Failure (Reply Body))

namespace Routine

/-- The handler that takes the steps where it is. -/
def handler (routine : Routine Failure Body) : Handler Failure Body := fun ambient request =>
  routine.react (Step.meanings ambient (routine.steps request)) request

/-- A handler that looks around itself once. -/
def ofHandler (handler : Handler Failure Body) : Routine Failure Body where
  steps _ := [.observe]
  react
    | [.seen ambient], request => handler ambient request
    | _, request => handler none request

/-- What was seen in a scope, if there was nothing but a scope. -/
def inScope : List (Trace String) → List (Trace String)
  | [.list seen] => seen
  | _ => []

/-- A service around a routine: its steps are in a scope under the id of the request, and what is
done knows nothing of that id but what they saw. -/
def served (logs : Bool) (fresh : String) (routine : Routine Failure Body) :
    Routine Failure Body where
  steps request :=
    let id := (sentId? request.headers).getD fresh
    [.run id (routine.steps { request with headers := stamp id request.headers })]
  react seen := withRequestId logs fresh (fun _ => routine.react (inScope seen)) none

/-- There is no handler but those of routines. -/
theorem handler_ofHandler (handler : Handler Failure Body) : (ofHandler handler).handler = handler :=
  rfl

/-- The service around the handler of a routine is the handler of the routine in a scope. -/
theorem handler_served (logs : Bool) (fresh : String) (routine : Routine Failure Body) :
    (routine.served logs fresh).handler = withRequestId logs fresh routine.handler := rfl

/-- Among other steps and under every schedule, the steps of a routine in a service see what they
see under the id of the request, and those before and after see what surrounds them all. -/
theorem served_seen (logs : Bool) (fresh : String) (routine : Routine Failure Body)
    (outer : Option String) (request : Inquiry) (before after : List (Step String))
    (verdicts : List Bool) (turns : List Ambient.Turn) :
    let id := (sentId? request.headers).getD fresh
    let handed := { request with headers := stamp id request.headers }
    let state := Ambient.takeTurns turns
      (.fresh (Ambient.within outer (before ++ (routine.served logs fresh).steps request ++ after)),
        ⟨none, [], verdicts⟩)
    let seen := Ambient.seenAround outer before id (routine.steps handed) after
    state.2.slot = none
      ∧ Trace.BeginAll (Ambient.programTrace state) seen
      ∧ (Ambient.isOver state = true → Ambient.programTrace state = seen) := by
  intro id handed
  -- The one step of the service is the scope that opens between the others.
  have program : before ++ (routine.served logs fresh).steps request ++ after
      = before ++ .run id (routine.steps handed) :: after := by
    rw [List.append_assoc]
    rfl
  rw [program]
  exact Ambient.seen_around outer before id (routine.steps handed) after verdicts turns

end Routine

end Gatehouse.Inbound
