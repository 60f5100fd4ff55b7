import Gatehouse.Ambient.Machine

/-!
# What going on does to the machine

Whatever goes on leaves the slot as it was found, starts its tasks behind those there are, and takes
verdicts from the front. A body goes on in two ways: behind a step that was asked, and as a branch
that the next verdict may hold back. What is proved of these two holds of bodies that begin and of
bodies that are asked again.
-/
namespace Gatehouse.Ambient

variable {Context : Type}

/-! ## Ways to go on -/

/-- A body whose next step was asked: the steps behind it begin once it has ended. -/
def continueWith (done : List (Entry Context)) (rest : List (Step Context)) :
    Progress Context × Machine Context → Future Context × Machine Context
  | (.ends entry, machine) => Step.beginAll rest (entry :: done) machine
  | (.waits active, machine) => (.parked done active rest, machine)

/-- A branch that the next verdict lets go on or holds back. -/
def Future.askBranch (future : Future Context) (machine : Machine Context) :
    Future Context × Machine Context :=
  if machine.verdict.1 then future.poll machine.verdict.2 else (future, machine.verdict.2)

theorem beginAll_cons (step : Step Context) (rest : List (Step Context))
    (done : List (Entry Context)) (machine : Machine Context) :
    Step.beginAll (step :: rest) done machine = continueWith done rest (step.begin machine) := by
  rw [Step.beginAll]
  generalize step.begin machine = reached
  obtain ⟨progress, after⟩ := reached
  cases progress <;> rfl

theorem poll_parked (done : List (Entry Context)) (active : Active Context)
    (rest : List (Step Context)) (machine : Machine Context) :
    Future.poll (.parked done active rest) machine
      = continueWith done rest (active.poll machine) := by
  rw [Future.poll]
  generalize active.poll machine = reached
  obtain ⟨progress, after⟩ := reached
  cases progress <;> rfl

theorem beginBranches_cons (body : List (Step Context)) (rest : List (List (Step Context)))
    (machine : Machine Context) :
    Step.beginBranches (body :: rest) machine
      = (((Future.fresh body).askBranch machine).1
            :: (Step.beginBranches rest ((Future.fresh body).askBranch machine).2).1,
          (Step.beginBranches rest ((Future.fresh body).askBranch machine).2).2) := rfl

theorem pollAll_cons (future : Future Context) (rest : List (Future Context))
    (machine : Machine Context) :
    Future.pollAll (future :: rest) machine
      = ((future.askBranch machine).1 :: (Future.pollAll rest (future.askBranch machine).2).1,
          (Future.pollAll rest (future.askBranch machine).2).2) := rfl

/-! ## Growth -/

/-- The slot is as before, the only new tasks are fresh ones behind the others, and verdicts are
taken from the front. -/
structure Grows (before after : Machine Context) : Prop where
  slot : after.slot = before.slot
  jobs : ∃ added, after.jobs = before.jobs ++ added
    ∧ ∀ job ∈ added, job.future = .fresh job.body
  verdicts : after.verdicts <:+ before.verdicts

namespace Grows

theorem refl (machine : Machine Context) : Grows machine machine :=
  ⟨rfl, ⟨[], by simp, by simp⟩, List.suffix_refl _⟩

theorem trans {first second third : Machine Context} (early : Grows first second)
    (late : Grows second third) : Grows first third := by
  obtain ⟨some, jobs, fresh⟩ := early.jobs
  obtain ⟨more, all, freshToo⟩ := late.jobs
  refine ⟨late.slot.trans early.slot, ⟨some ++ more, ?_, ?_⟩, late.verdicts.trans early.verdicts⟩
  · rw [all, jobs, List.append_assoc]
  · intro job member
    rcases List.mem_append.mp member with member | member
    · exact fresh job member
    · exact freshToo job member

theorem start (machine : Machine Context) (scope : Option Context) (body : List (Step Context)) :
    Grows machine (machine.start scope body).2 := by
  refine ⟨rfl, ⟨[⟨scope, body, .fresh body⟩], rfl, ?_⟩, List.suffix_refl _⟩
  intro job member
  obtain rfl := List.mem_singleton.mp member
  rfl

theorem verdict (machine : Machine Context) : Grows machine machine.verdict.2 := by
  unfold Machine.verdict
  split
  · exact refl machine
  next goesOn rest taken =>
    exact ⟨rfl, ⟨[], by simp, by simp⟩, taken ▸ List.suffix_cons goesOn rest⟩

/-- A scope that puts back what it found. -/
theorem ofScope {before after : Machine Context} {context : Option Context}
    (inside : Grows (before.setSlot context) after) :
    Grows before (after.setSlot before.slot) := ⟨rfl, inside.jobs, inside.verdicts⟩

theorem length_le {before after : Machine Context} (grows : Grows before after) :
    before.jobs.length ≤ after.jobs.length := by
  obtain ⟨added, jobs, _⟩ := grows.jobs
  rw [jobs, List.length_append]
  exact Nat.le_add_right _ _

theorem held {before after : Machine Context} (grows : Grows before after) {number : Nat}
    {job : Job Context} (held : before.jobs[number]? = some job) :
    after.jobs[number]? = some job := by
  obtain ⟨added, jobs, _⟩ := grows.jobs
  rw [jobs, List.getElem?_append_left (List.getElem?_eq_some_iff.mp held).1]
  exact held

theorem held_or_fresh {before after : Machine Context} (grows : Grows before after) {number : Nat}
    {job : Job Context} (held : after.jobs[number]? = some job) :
    before.jobs[number]? = some job ∨ job.future = .fresh job.body := by
  obtain ⟨added, jobs, fresh⟩ := grows.jobs
  rw [jobs] at held
  by_cases old : number < before.jobs.length
  · exact .inl ((List.getElem?_append_left old).symm.trans held)
  · rw [List.getElem?_append_right (Nat.le_of_not_lt old)] at held
    exact .inr (fresh job (List.mem_of_getElem? held))

theorem verdicts_nil {before after : Machine Context} (grows : Grows before after)
    (free : before.verdicts = []) : after.verdicts = [] :=
  List.suffix_nil.mp (free ▸ grows.verdicts)

end Grows

theorem continueWith_grows {done : List (Entry Context)} {rest : List (Step Context)}
    {machine : Machine Context} {reached : Progress Context × Machine Context}
    (grows : Grows machine reached.2)
    (others : ∀ done after, Grows after (Step.beginAll rest done after).2) :
    Grows machine (continueWith done rest reached).2 := by
  obtain ⟨progress, after⟩ := reached
  cases progress with
  | ends entry => exact grows.trans (others (entry :: done) after)
  | waits active => exact grows

theorem askBranch_grows {future : Future Context}
    (own : ∀ after, Grows after (future.poll after).2) (machine : Machine Context) :
    Grows machine (future.askBranch machine).2 := by
  have asked := Grows.verdict machine
  unfold Future.askBranch
  split
  · exact asked.trans (own machine.verdict.2)
  · exact asked

/-! ## Everything that goes on grows -/

mutual

theorem Block.execute_grows : (step : Block Context) → (machine : Machine Context) →
    Grows machine (step.execute machine).2
  | .observe, machine => .refl machine
  | .run context body, machine =>
    (Block.executeAll_grows body (machine.setSlot (some context))).ofScope
  | .detach _ body, machine => .start machine _ body

theorem Block.executeAll_grows : (body : List (Block Context)) → (machine : Machine Context) →
    Grows machine (Block.executeAll body machine).2
  | [], machine => .refl machine
  | step :: rest, machine =>
    (Block.execute_grows step machine).trans (Block.executeAll_grows rest _)

end

mutual

theorem Step.begin_grows : (step : Step Context) → (machine : Machine Context) →
    Grows machine (step.begin machine).2
  | .observe, machine => .refl machine
  | .run context body, machine =>
    (Step.beginAll_grows body [] (machine.setSlot (some context))).ofScope
  | .runBlocking context body, machine =>
    (Block.executeAll_grows body (machine.setSlot (some context))).ofScope
  | .spawn body, machine => .start machine none body
  | .spawnWithContext body, machine => .start machine machine.slot body
  | .detach _ body, machine => .start machine _ body
  | .join branches, machine => Step.beginBranches_grows branches machine
  | .wait, machine => .refl machine

theorem Step.beginAll_grows : (body : List (Step Context)) → (done : List (Entry Context)) →
    (machine : Machine Context) → Grows machine (Step.beginAll body done machine).2
  | [], _, machine => .refl machine
  | step :: rest, done, machine => by
    rw [beginAll_cons]
    exact continueWith_grows (Step.begin_grows step machine) (Step.beginAll_grows rest)

theorem Step.beginBranches_grows : (branches : List (List (Step Context))) →
    (machine : Machine Context) → Grows machine (Step.beginBranches branches machine).2
  | [], machine => .refl machine
  | body :: rest, machine => by
    have here : Grows machine ((Future.fresh body).askBranch machine).2 :=
      askBranch_grows (Step.beginAll_grows body []) machine
    exact here.trans (Step.beginBranches_grows rest _)

end

mutual

theorem Future.poll_grows : (future : Future Context) → (machine : Machine Context) →
    Grows machine (future.poll machine).2
  | .ready _, machine => .refl machine
  | .fresh body, machine => Step.beginAll_grows body [] machine
  | .parked done active rest, machine => by
    rw [poll_parked]
    exact continueWith_grows (Active.poll_grows active machine) (Step.beginAll_grows rest)

theorem Active.poll_grows : (active : Active Context) → (machine : Machine Context) →
    Grows machine (active.poll machine).2
  | .scope context inner, machine =>
    (Future.poll_grows inner (machine.setSlot (some context))).ofScope
  | .branches list, machine => Future.pollAll_grows list machine
  | .child _, machine => .refl machine
  | .wait, machine => .verdict machine

theorem Future.pollAll_grows : (list : List (Future Context)) → (machine : Machine Context) →
    Grows machine (Future.pollAll list machine).2
  | [], machine => .refl machine
  | future :: rest, machine => by
    have here := askBranch_grows (Future.poll_grows future) machine
    exact here.trans (Future.pollAll_grows rest _)

end

end Gatehouse.Ambient
