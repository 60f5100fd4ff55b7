import Gatehouse.Proofs.Ambient.Schedules

/-!
# What a scope covers

A scope among other steps covers its own body and nothing else: whatever the schedule, the steps
before and after it find the context that surrounds them all.
-/
namespace Gatehouse.Ambient

variable {Context : Type}

/-- Steps in a scope, if there is one. -/
def within : Option Context → List (Step Context) → List (Step Context)
  | none, body => body
  | some context, body => [.run context body]

/-- What steps in a scope show of what they see. -/
def shown : Option Context → List (Trace Context) → List (Trace Context)
  | none, seen => seen
  | some _, seen => [.list seen]

theorem meanings_append (ambient : Option Context) (early late : List (Step Context)) :
    Step.meanings ambient (early ++ late)
      = Step.meanings ambient early ++ Step.meanings ambient late := by
  induction early with
  | nil => rfl
  | cons step rest ih => exact congrArg (step.meaning ambient :: ·) ih

theorem meanings_within (outer : Option Context) (body : List (Step Context)) :
    Step.meanings none (within outer body) = shown outer (Step.meanings outer body) := by
  cases outer with
  | none => rfl
  | some context => rfl

/-- What is seen where a scope opens among other steps. -/
def seenAround (outer : Option Context) (before : List (Step Context)) (context : Context)
    (body after : List (Step Context)) : List (Trace Context) :=
  shown outer (Step.meanings outer before
    ++ .list (Step.meanings (some context) body) :: Step.meanings outer after)

/-- Under every schedule a scope shows its context to its body, and what surrounds it to what comes
before and after it. -/
theorem seen_around (outer : Option Context) (before : List (Step Context)) (context : Context)
    (body after : List (Step Context)) (verdicts : List Bool) (turns : List Turn) :
    let state := takeTurns turns
      (.fresh (within outer (before ++ .run context body :: after)), ⟨none, [], verdicts⟩)
    state.2.slot = none
      ∧ Trace.BeginAll (programTrace state) (seenAround outer before context body after)
      ∧ (isOver state = true →
          programTrace state = seenAround outer before context body after) := by
  intro state
  let program := within outer (before ++ .run context body :: after)
  have coherent : Coherent program state.2 state :=
    (coherent_start program state.2 verdicts).takeTurns turns (.refl state.2)
  obtain ⟨begins, _, ended⟩ := coherent.traces
  have means : Step.meanings none program = seenAround outer before context body after := by
    rw [meanings_within, meanings_append]
    rfl
  rw [means] at begins ended
  exact ⟨coherent.slot, begins, fun final => (ended final).1⟩

end Gatehouse.Ambient
