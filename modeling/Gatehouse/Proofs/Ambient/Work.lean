import Gatehouse.Proofs.Ambient.Waiting

/-!
# Work that is left

A bound on how often a program and its tasks can still be asked to go on. Without a verdict that
holds anything back, a body that is asked either has less work left, counting that of the tasks it
starts, or it is as before: because it has ended, or because it waits for a task that has not.
-/
namespace Gatehouse.Ambient

variable {Context : Type}

mutual

def Future.work : Future Context → Nat
  | .ready _ => 0
  | .fresh body => 1 + 2 * Step.sizeAll body
  | .parked _ active rest => active.work + 2 * Step.sizeAll rest

def Active.work : Active Context → Nat
  | .scope _ inner => 1 + inner.work
  | .branches list => 1 + Future.workAll list
  | .child _ => 1
  | .wait => 1

def Future.workAll : List (Future Context) → Nat
  | [] => 0
  | future :: rest => future.work + Future.workAll rest

end

def Progress.work : Progress Context → Nat
  | .ends _ => 0
  | .waits active => active.work

def jobsWork : List (Job Context) → Nat
  | [] => 0
  | job :: rest => job.future.work + jobsWork rest

def Machine.work (machine : Machine Context) : Nat := jobsWork machine.jobs

/-! ## Sums over tasks -/

theorem jobsWork_append (first second : List (Job Context)) :
    jobsWork (first ++ second) = jobsWork first + jobsWork second := by
  induction first with
  | nil => simp [jobsWork]
  | cons job rest ih => simp only [List.cons_append, jobsWork, ih, Nat.add_assoc]

theorem jobsWork_set {jobs : List (Job Context)} {number : Nat} {job : Job Context}
    (held : jobs[number]? = some job) (next : Job Context) :
    jobsWork (jobs.set number next) + job.future.work = jobsWork jobs + next.future.work := by
  induction jobs generalizing number with
  | nil => cases held
  | cons first rest ih =>
    cases number with
    | zero =>
      cases held
      simp only [List.set_cons_zero, jobsWork]
      omega
    | succ number =>
      have below := ih (List.getElem?_cons_succ.symm.trans held)
      simp only [List.set_cons_succ, jobsWork]
      omega

theorem work_start (machine : Machine Context) (scope : Option Context)
    (body : List (Step Context)) :
    (machine.start scope body).2.work = machine.work + (1 + 2 * Step.sizeAll body) := by
  simp only [Machine.start, Machine.work, jobsWork_append, jobsWork, Future.work, Nat.add_zero]

@[simp] theorem work_setSlot (machine : Machine Context) (slot : Option Context) :
    (machine.setSlot slot).work = machine.work := rfl

/-! ## Beginning -/

theorem verdict_nil {machine : Machine Context} (free : machine.verdicts = []) :
    machine.verdict = (true, machine) := by
  simp only [Machine.verdict, free]

theorem askBranch_free (future : Future Context) {machine : Machine Context}
    (free : machine.verdicts = []) : future.askBranch machine = future.poll machine := by
  simp only [Future.askBranch, verdict_nil free, if_true]

theorem work_ofScope (context : Context) (inner : Future Context) :
    (Progress.ofScope context inner).work ≤ 1 + inner.work := by
  cases inner with
  | ready entries => exact Nat.zero_le _
  | fresh body => exact Nat.le_refl _
  | parked done active rest => exact Nat.le_refl _

theorem work_ofBranches (list : List (Future Context)) :
    (Progress.ofBranches list).work ≤ 1 + Future.workAll list := by
  unfold Progress.ofBranches
  split
  · exact Nat.zero_le _
  · exact Nat.le_refl _

theorem continueWith_work {done : List (Entry Context)} {rest : List (Step Context)}
    {reached : Progress Context × Machine Context} (free : reached.2.verdicts = [])
    (others : ∀ done (after : Machine Context), after.verdicts = [] →
      (Step.beginAll rest done after).1.work + (Step.beginAll rest done after).2.work
        ≤ 2 * Step.sizeAll rest + after.work) :
    (continueWith done rest reached).1.work + (continueWith done rest reached).2.work
      ≤ reached.1.work + 2 * Step.sizeAll rest + reached.2.work := by
  obtain ⟨progress, after⟩ := reached
  cases progress with
  | ends entry =>
    have later := others (entry :: done) after free
    simp only [continueWith, Progress.work]
    omega
  | waits active =>
    simp only [continueWith, Progress.work, Future.work]
    omega

mutual

theorem Block.execute_work : (step : Block Context) → (machine : Machine Context) →
    (step.execute machine).2.work ≤ 2 * step.size + machine.work
  | .observe, machine => Nat.le_add_left _ _
  | .run context body, machine => by
    have inside := Block.executeAll_work body (machine.setSlot (some context))
    simp only [Block.execute, Block.size, work_setSlot] at inside ⊢
    omega
  | .detach handsOver body, machine => by
    have started := work_start machine (inherited handsOver machine.slot) body
    simp only [Block.execute, Block.size]
    omega

theorem Block.executeAll_work : (body : List (Block Context)) → (machine : Machine Context) →
    (Block.executeAll body machine).2.work ≤ 2 * Block.sizeAll body + machine.work
  | [], machine => Nat.le_add_left _ _
  | step :: rest, machine => by
    have here := Block.execute_work step machine
    have others := Block.executeAll_work rest (step.execute machine).2
    simp only [Block.executeAll, Block.sizeAll]
    omega

end

mutual

theorem Step.begin_work : (step : Step Context) → (machine : Machine Context) →
    machine.verdicts = [] →
    (step.begin machine).1.work + (step.begin machine).2.work ≤ 2 * step.size + machine.work
  | .observe, machine, _ => by
    simp only [Step.begin, Progress.work, Step.size]
    omega
  | .run context body, machine, free => by
    have inside := Step.beginAll_work body [] (machine.setSlot (some context)) free
    have kept := work_ofScope context (Step.beginAll body [] (machine.setSlot (some context))).1
    simp only [Step.begin, Step.size, work_setSlot] at inside ⊢
    omega
  | .runBlocking context body, machine, _ => by
    have inside := Block.executeAll_work body (machine.setSlot (some context))
    simp only [Step.begin, Step.size, Progress.work, work_setSlot] at inside ⊢
    omega
  | .spawn body, machine, _ => by
    have started := work_start machine none body
    simp only [Step.begin, Step.size, Progress.work, Active.work]
    omega
  | .spawnWithContext body, machine, _ => by
    have started := work_start machine machine.slot body
    simp only [Step.begin, Step.size, Progress.work, Active.work]
    omega
  | .detach handsOver body, machine, _ => by
    have started := work_start machine (inherited handsOver machine.slot) body
    simp only [Step.begin, Step.size, Progress.work]
    omega
  | .join branches, machine, free => by
    have inside := Step.beginBranches_work branches machine free
    have kept := work_ofBranches (Step.beginBranches branches machine).1
    simp only [Step.begin, Step.size]
    omega
  | .wait, machine, _ => by
    simp only [Step.begin, Progress.work, Active.work, Step.size]
    omega

theorem Step.beginAll_work : (body : List (Step Context)) → (done : List (Entry Context)) →
    (machine : Machine Context) → machine.verdicts = [] →
    (Step.beginAll body done machine).1.work + (Step.beginAll body done machine).2.work
      ≤ 2 * Step.sizeAll body + machine.work
  | [], done, machine, _ => by
    simp only [Step.beginAll, Future.work]
    omega
  | step :: rest, done, machine, free => by
    have here := Step.begin_work step machine free
    have freeStill := (Step.begin_grows step machine).verdicts_nil free
    have others := @continueWith_work _ done rest _ freeStill (Step.beginAll_work rest)
    rw [beginAll_cons, Step.sizeAll]
    omega

theorem Step.beginBranches_work : (branches : List (List (Step Context))) →
    (machine : Machine Context) → machine.verdicts = [] →
    Future.workAll (Step.beginBranches branches machine).1
        + (Step.beginBranches branches machine).2.work
      ≤ 2 * Step.sizeBranches branches + machine.work
  | [], machine, _ => by
    simp only [Step.beginBranches, Future.workAll]
    omega
  | body :: rest, machine, free => by
    have here := Step.beginAll_work body [] machine free
    have freeStill := (Step.beginAll_grows body [] machine).verdicts_nil free
    have others := Step.beginBranches_work rest (Step.beginAll body [] machine).2 freeStill
    simp only [beginBranches_cons, askBranch_free _ free, Future.poll, Future.workAll,
      Step.sizeBranches]
    omega

end

/-! ## Going on -/

mutual

/-- Without a verdict against it, a body that is asked has less work left, or it is as before: it
has ended or waits for a task that has not. -/
theorem Future.poll_work : (future : Future Context) → (machine : Machine Context) →
    machine.verdicts = [] →
    (future.poll machine).1.work + (future.poll machine).2.work < future.work + machine.work
      ∨ (future.poll machine = (future, machine)
        ∧ (future.isReady = true ∨ ¬ future.Awaits (machine.hasEnded · = true)))
  | .ready _, _, _ => .inr ⟨rfl, .inl rfl⟩
  | .fresh body, machine, free => by
    have begun := Step.beginAll_work body [] machine free
    apply Or.inl
    simp only [Future.poll, Future.work]
    omega
  | .parked done active rest, machine, free => by
    rw [poll_parked, Future.work]
    rcases Active.poll_work active machine free with less | ⟨same, blocked⟩
    · have freeStill := (Active.poll_grows active machine).verdicts_nil free
      have others := @continueWith_work _ done rest _ freeStill (Step.beginAll_work rest)
      exact .inl (by omega)
    · rw [same]
      exact .inr ⟨rfl, .inr blocked⟩

theorem Active.poll_work : (active : Active Context) → (machine : Machine Context) →
    machine.verdicts = [] →
    (active.poll machine).1.work + (active.poll machine).2.work < active.work + machine.work
      ∨ (active.poll machine = (.waits active, machine)
        ∧ ¬ active.Awaits (machine.hasEnded · = true))
  | .scope context inner, machine, free => by
    have kept := work_ofScope context (inner.poll (machine.setSlot (some context))).1
    rcases Future.poll_work inner (machine.setSlot (some context)) free with
      less | ⟨same, ended | blocked⟩
    · apply Or.inl
      simp only [Active.poll, Active.work, work_setSlot] at less ⊢
      omega
    · -- An inner body that has ended lets the scope end.
      apply Or.inl
      cases inner with
      | ready entries =>
        simp only [Active.poll, same, Progress.ofScope, Progress.work, Active.work, work_setSlot]
        omega
      | fresh body => cases ended
      | parked done active rest => cases ended
    · cases inner with
      | ready entries => exact absurd trivial blocked
      | fresh body => exact absurd trivial blocked
      | parked done active rest =>
        refine .inr ⟨?_, blocked⟩
        simp only [Active.poll, same, Progress.ofScope]
        rfl
  | .branches list, machine, free => by
    have kept := work_ofBranches (Future.pollAll list machine).1
    rcases Future.pollAll_work list machine free with less | ⟨same, state⟩
    · apply Or.inl
      simp only [Active.poll, Active.work]
      omega
    · -- Nothing has changed inside, but if all branches have ended, so does the join.
      cases ready : allReady list with
      | some entries =>
        apply Or.inl
        simp only [Active.poll, same, Progress.ofBranches, ready, Progress.work, Active.work]
        omega
      | none =>
        rcases state with ended | blocked
        · rw [ready] at ended
          cases ended
        · refine .inr ⟨?_, blocked⟩
          simp only [Active.poll, same, Progress.ofBranches, ready]
  | .child task, machine, _ => by
    cases ended : machine.hasEnded task with
    | true =>
      apply Or.inl
      simp only [Active.poll, ended, if_true, Progress.work, Active.work]
      omega
    | false =>
      refine .inr ⟨?_, ?_⟩
      · simp only [Active.poll, ended, Bool.false_eq_true, if_false]
      · simp only [Active.Awaits, ended, Bool.false_eq_true, not_false_eq_true]
  | .wait, machine, free => by
    apply Or.inl
    simp only [Active.poll, verdict_nil free, if_true, Progress.work, Active.work]
    omega

theorem Future.pollAll_work : (list : List (Future Context)) → (machine : Machine Context) →
    machine.verdicts = [] →
    Future.workAll (Future.pollAll list machine).1 + (Future.pollAll list machine).2.work
        < Future.workAll list + machine.work
      ∨ (Future.pollAll list machine = (list, machine)
        ∧ ((allReady list).isSome = true ∨ ¬ Future.AllAwait (machine.hasEnded · = true) list))
  | [], machine, _ => .inr ⟨rfl, .inl rfl⟩
  | future :: rest, machine, free => by
    have grows := Future.poll_grows future machine
    have others := Future.pollAll_work rest (future.poll machine).2 (grows.verdicts_nil free)
    rw [pollAll_cons, askBranch_free future free]
    simp only [Future.workAll]
    rcases Future.poll_work future machine free with less | ⟨same, state⟩
    · rcases others with lessStill | ⟨sameStill, _⟩
      · exact .inl (by omega)
      · rw [sameStill]
        dsimp only
        exact .inl (by omega)
    · rw [same] at others ⊢
      dsimp only at others ⊢
      rcases others with less | ⟨sameStill, stateRest⟩
      · exact .inl (by omega)
      · rw [sameStill]
        refine .inr ⟨rfl, ?_⟩
        -- All have ended, or one of them waits.
        rcases state with ended | blocked
        · rcases stateRest with endedRest | blockedRest
          · cases future with
            | ready entries =>
              apply Or.inl
              rw [allReady, Option.isSome_map]
              exact endedRest
            | fresh body => cases ended
            | parked done active rest => cases ended
          · exact .inr fun all => blockedRest all.2
        · exact .inr fun all => blocked all.1

end

end Gatehouse.Ambient
