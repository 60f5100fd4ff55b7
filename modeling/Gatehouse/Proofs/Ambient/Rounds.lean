import Gatehouse.Proofs.Ambient.Schedules
import Gatehouse.Proofs.Ambient.Views
import Gatehouse.Proofs.Ambient.Work

/-!
# Rounds come to an end

A task is waited for by the one that started it, which has a smaller number. So of the tasks that
have not ended the last one can go on, and unless all is over a round leaves less work. Running a
program in rounds therefore shows all that its body means.
-/
namespace Gatehouse.Ambient

variable {Context : Type}

/-! ## Order of tasks -/

/-- A task waits for later tasks only, and all that are waited for are there. -/
structure Ordered (state : Future Context × Machine Context) : Prop where
  program : state.1.Awaits (· < state.2.jobs.length)
  jobs : ∀ (number : Nat) (job : Job Context), state.2.jobs[number]? = some job →
    job.future.Awaits fun task => number < task ∧ task < state.2.jobs.length

theorem Ordered.held {future : Future Context} {before after : Machine Context}
    (ordered : Ordered (future, before)) {slot : Option Context}
    (grows : Grows (before.setSlot slot) after) {number : Nat} {job : Job Context}
    (held : after.jobs[number]? = some job) :
    job.future.Awaits fun task => number < task ∧ task < after.jobs.length := by
  rcases grows.held_or_fresh held with known | fresh
  · apply (ordered.jobs number job known).imp
    rintro task ⟨later, inside⟩
    exact ⟨later, Nat.lt_of_lt_of_le inside grows.length_le⟩
  · rw [fresh]
    trivial

theorem Ordered.takeTurn {state : Future Context × Machine Context} (ordered : Ordered state)
    (turn : Turn) : Ordered (takeTurn turn state) := by
  obtain ⟨future, machine⟩ := state
  cases turn with
  | program =>
    have grows := Future.poll_grows future machine
    constructor
    case program =>
      refine Future.poll_awaits future machine ?_ (fun task _ inside => inside)
      exact ordered.program.imp fun task inside => Nat.lt_of_lt_of_le inside grows.length_le
    case jobs =>
      have same : machine.setSlot machine.slot = machine := rfl
      exact fun number job held => ordered.held (same ▸ grows) held
  | task number =>
    rcases pollJob_cases machine number with ⟨_, same⟩ | ⟨job, after, held, polled, grows, _, jobs⟩
    · simp only [Ambient.takeTurn, same]
      exact ordered
    · have length : (machine.pollJob number).jobs.length = after.2.jobs.length := by
        rw [jobs, List.length_set]
      have longer : machine.jobs.length ≤ (machine.pollJob number).jobs.length :=
        length ▸ grows.length_le
      constructor
      case program =>
        exact ordered.program.imp fun task inside => Nat.lt_of_lt_of_le inside longer
      case jobs =>
        intro other next heldNext
        replace heldNext : (machine.pollJob number).jobs[other]? = some next := heldNext
        show next.future.Awaits fun task =>
          other < task ∧ task < (machine.pollJob number).jobs.length
        rw [length]
        rw [jobs] at heldNext
        rcases held_set heldNext with ⟨rfl, rfl⟩ | heldNext
        · -- All tasks that it has started stand behind it.
          have bound : other < machine.jobs.length := (List.getElem?_eq_some_iff.mp held).1
          subst polled
          apply Future.poll_awaits job.future (machine.setSlot job.scope)
          · exact ordered.held grows (grows.held held)
          · exact fun task low inside => ⟨Nat.lt_of_lt_of_le bound low, inside⟩
        · exact ordered.held grows heldNext

/-! ## Work of a round -/

def totalWork (state : Future Context × Machine Context) : Nat := state.1.work + state.2.work

/-- Whether what has a turn cannot go on: it has ended, or waits for a task that has not. -/
def Turn.IsIdle (turn : Turn) (state : Future Context × Machine Context) : Prop :=
  match turn with
  | .program => state.1.isReady = true ∨ ¬ state.1.Awaits (state.2.hasEnded · = true)
  | .task number => ∀ job, state.2.jobs[number]? = some job →
      job.future.isReady = true ∨ ¬ job.future.Awaits (state.2.hasEnded · = true)

theorem takeTurn_verdicts (turn : Turn) {state : Future Context × Machine Context}
    (free : state.2.verdicts = []) : (takeTurn turn state).2.verdicts = [] := by
  cases turn with
  | program => exact (Future.poll_grows state.1 state.2).verdicts_nil free
  | task number =>
    simp only [takeTurn, Machine.pollJob]
    split
    · exact free
    next job held =>
      exact (Future.poll_grows job.future (state.2.setSlot job.scope)).verdicts_nil free

theorem takeTurn_work (turn : Turn) (state : Future Context × Machine Context)
    (free : state.2.verdicts = []) :
    totalWork (takeTurn turn state) < totalWork state
      ∨ (takeTurn turn state = state ∧ turn.IsIdle state) := by
  obtain ⟨future, machine⟩ := state
  cases turn with
  | program => exact Future.poll_work future machine free
  | task number =>
    rcases pollJob_cases machine number with
      ⟨none, same⟩ | ⟨job, after, held, polled, grows, slot, jobs⟩
    · refine .inr ⟨?_, ?_⟩
      · simp only [takeTurn, same]
      · intro job held
        cases none.symm.trans held
    · rcases Future.poll_work job.future (machine.setSlot job.scope) free with
        less | ⟨same, idle⟩
      · have sum := jobsWork_set (grows.held held) { job with future := after.1 }
        rw [← polled, work_setSlot] at less
        apply Or.inl
        simp only [takeTurn, totalWork, Machine.work, jobs] at less sum ⊢
        omega
      · refine .inr ⟨?_, ?_⟩
        · have unchanged : machine.jobs.set number job = machine.jobs := by
            obtain ⟨inside, rfl⟩ := List.getElem?_eq_some_iff.mp held
            exact List.set_getElem_self inside
          simp only [takeTurn, Machine.pollJob, held, same]
          show (future, { machine with jobs := machine.jobs.set number job }) = (future, machine)
          rw [unchanged]
        · intro other heldOther
          obtain rfl := Option.some.inj (held.symm.trans heldOther)
          exact idle

theorem takeTurns_work (turns : List Turn) (state : Future Context × Machine Context)
    (free : state.2.verdicts = []) :
    totalWork (takeTurns turns state) < totalWork state
      ∨ (takeTurns turns state = state ∧ ∀ turn ∈ turns, turn.IsIdle state) := by
  induction turns generalizing state with
  | nil => exact .inr ⟨rfl, by simp⟩
  | cons turn rest ih =>
    have later := ih (takeTurn turn state) (takeTurn_verdicts turn free)
    show totalWork (takeTurns rest (takeTurn turn state)) < _
      ∨ (takeTurns rest (takeTurn turn state) = _ ∧ _)
    rcases takeTurn_work turn state free with less | ⟨same, idle⟩
    · rcases later with lessStill | ⟨sameStill, _⟩
      · exact .inl (Nat.lt_trans lessStill less)
      · rw [sameStill]
        exact .inl less
    · rw [same] at later ⊢
      rcases later with less | ⟨sameStill, idleRest⟩
      · exact .inl less
      · exact .inr ⟨sameStill, List.forall_mem_cons.mpr ⟨idle, idleRest⟩⟩

/-- If no task can go on, all have ended: the last one that has not would wait for a later one. -/
theorem hasEnded_of_idle {state : Future Context × Machine Context} (ordered : Ordered state)
    (idle : ∀ number, number < state.2.jobs.length → (Turn.task number).IsIdle state) (gap : Nat) :
    ∀ number, number + gap = state.2.jobs.length → ∀ task, number ≤ task →
      task < state.2.jobs.length → state.2.hasEnded task = true := by
  induction gap with
  | zero =>
    intro number whole task low high
    omega
  | succ gap ih =>
    intro number whole task low high
    have later := ih (number + 1) (by omega)
    by_cases same : task = number
    · subst same
      obtain ⟨job, held⟩ : ∃ job, state.2.jobs[task]? = some job :=
        ⟨_, List.getElem?_eq_getElem high⟩
      rcases idle task high job held with ready | blocked
      · simp only [Machine.hasEnded, held, Option.any_some, ready]
      · refine absurd ((ordered.jobs task job held).imp ?_) blocked
        rintro other ⟨after, inside⟩
        exact later other after inside
    · exact later task (by omega) high

/-- Unless all is over, a round leaves less work. -/
theorem round_work {state : Future Context × Machine Context} (ordered : Ordered state)
    (free : state.2.verdicts = []) (going : isOver state = false) :
    totalWork (takeTurns (roundTurns state.2) state) < totalWork state := by
  rcases takeTurns_work (roundTurns state.2) state free with less | ⟨_, idle⟩
  · exact less
  · -- A round of idle turns: all tasks have ended, and with them the program.
    have idleTask : ∀ number, number < state.2.jobs.length → (Turn.task number).IsIdle state := by
      intro number inside
      refine idle _ (List.mem_cons_of_mem _ (List.mem_map.mpr ⟨number, ?_, rfl⟩))
      exact List.mem_range.mpr inside
    have ended := hasEnded_of_idle ordered idleTask state.2.jobs.length 0 (by omega)
    have final : isOver state = true := by
      rw [isOver, Bool.and_eq_true, List.all_eq_true]
      constructor
      · rcases idle .program List.mem_cons_self with ready | blocked
        · exact ready
        · refine absurd (ordered.program.imp ?_) blocked
          exact fun task inside => ended task (Nat.zero_le _) inside
      · intro job member
        obtain ⟨number, held⟩ := List.mem_iff_getElem?.mp member
        have inside := (List.getElem?_eq_some_iff.mp held).1
        have here := ended number (Nat.zero_le _) inside
        simpa only [Machine.hasEnded, held, Option.any_some] using here
    rw [final] at going
    cases going

/-! ## Runs in rounds -/

theorem takeTurns_append (first second : List Turn) (state : Future Context × Machine Context) :
    takeTurns (first ++ second) state = takeTurns second (takeTurns first state) :=
  List.foldl_append

theorem takeTurns_ordered (turns : List Turn) {state : Future Context × Machine Context}
    (ordered : Ordered state) : Ordered (takeTurns turns state) := by
  induction turns generalizing state with
  | nil => exact ordered
  | cons turn rest ih => exact ih (ordered.takeTurn turn)

theorem takeTurns_verdicts (turns : List Turn) {state : Future Context × Machine Context}
    (free : state.2.verdicts = []) : (takeTurns turns state).2.verdicts = [] := by
  induction turns generalizing state with
  | nil => exact free
  | cons turn rest ih => exact ih (takeTurn_verdicts turn free)

/-- With a budget above the work, rounds are turns after which all is over. -/
theorem runRounds_over (budget : Nat) (state : Future Context × Machine Context)
    (ordered : Ordered state) (free : state.2.verdicts = []) (enough : totalWork state < budget) :
    isOver (runRounds budget state) = true
      ∧ ∃ turns, runRounds budget state = takeTurns turns state := by
  induction budget generalizing state with
  | zero => exact absurd enough (Nat.not_lt_zero _)
  | succ budget ih =>
    rw [runRounds]
    split
    next final => exact ⟨final, [], rfl⟩
    next going =>
      have less := round_work ordered free (Bool.eq_false_iff.mpr going)
      obtain ⟨final, turns, same⟩ := ih _ (takeTurns_ordered (roundTurns state.2) ordered)
        (takeTurns_verdicts (roundTurns state.2) free) (by omega)
      refine ⟨final, roundTurns state.2 ++ turns, ?_⟩
      rw [same, takeTurns_append]

/-- Ambient context is lexical. Whatever turns are taken and whatever verdicts hold back waits and
branches, the slot is empty between turns; what the program and each of its tasks have seen begins
what their bodies mean where they stand, and is all of it once all is over. The same goes for what
accessors to parts of the context show. Such ends exist: running the program in rounds comes to
one. -/
theorem observations_are_lexical (body : List (Step Context)) :
    (∀ (verdicts : List Bool) (turns : List Turn),
      let state := takeTurns turns (.fresh body, ⟨none, [], verdicts⟩)
      state.2.slot = none
        ∧ Trace.BeginAll (programTrace state) (Step.meanings none body)
        ∧ (∀ (task : Nat) (job : Job Context), state.2.jobs[task]? = some job →
            Trace.BeginAll (state.2.traces task) (Step.meanings job.scope job.body))
        ∧ (isOver state = true →
            programTrace state = Step.meanings none body
              ∧ (∀ (task : Nat) (job : Job Context), state.2.jobs[task]? = some job →
                state.2.traces task = Step.meanings job.scope job.body)
              ∧ ∀ (Part : Type) (part : Context → Part),
                Trace.viewAll part (programTrace state)
                  = Step.meanings none (Step.viewAll part body)))
      ∧ runProgram body = (some (Step.meanings none body), none) := by
  -- What tasks are to see is read off the last machine of a run, so the run is coherent with that
  -- machine from its start on.
  have coherent : ∀ verdicts turns,
      let state := takeTurns turns (.fresh body, ⟨none, [], verdicts⟩)
      Coherent body state.2 state := by
    intro verdicts turns state
    exact (coherent_start body state.2 verdicts).takeTurns turns (.refl state.2)
  constructor
  · intro verdicts turns state
    obtain ⟨begins, tasksBegin, whole⟩ := (coherent verdicts turns).traces
    refine ⟨(coherent verdicts turns).slot, begins, tasksBegin, ?_⟩
    intro final
    obtain ⟨same, tasks⟩ := whole final
    refine ⟨same, tasks, ?_⟩
    intro Part part
    rw [same]
    exact (Step.meanings_view part body none).symm
  · -- The budget of a run is above the work of its start.
    have start : Ordered (Future.fresh body, (⟨none, [], []⟩ : Machine Context)) :=
      ⟨trivial, fun _ _ held => nomatch held⟩
    have enough : totalWork (Future.fresh body, (⟨none, [], []⟩ : Machine Context))
        < 2 * Step.sizeAll body + 2 := by
      simp only [totalWork, Future.work, Machine.work, jobsWork]
      omega
    obtain ⟨final, turns, same⟩ := runRounds_over _ _ start rfl enough
    have whole := (coherent [] turns).traces.2.2
    have slot := (coherent [] turns).slot
    rw [← same] at whole slot
    simp only [runProgram, final, if_true, (whole final).1, slot]

/-- A detached task with the context handed over and two branches, one of which is held back: both
scopes show where they stand, and the task still shows the first one when it has ended. -/
theorem observations_are_lexical_interleaved :
    let body : List (Step Nat) :=
      [.run 1 [.detach true [.wait, .observe], .wait, .observe],
        .join [[.wait, .observe], [.run 2 [.wait, .observe], .observe]]]
    let turns : List Turn := [.program, .task 0, .program, .program, .program, .task 0, .program]
    let verdicts := [true, true, true, true, false, true, true]
    let state := takeTurns turns (.fresh body, ⟨none, [], verdicts⟩)
    isOver state = true
      ∧ programTrace state
        = [.list [.list [.nothing, .seen (some 1)], .nothing, .seen (some 1)],
            .list [.list [.nothing, .seen none],
              .list [.list [.nothing, .seen (some 2)], .seen none]]] := by
  intro body turns verdicts state
  have final : isOver state = true := by decide
  exact ⟨final, (((observations_are_lexical body).1 verdicts turns).2.2.2 final).1⟩

end Gatehouse.Ambient
