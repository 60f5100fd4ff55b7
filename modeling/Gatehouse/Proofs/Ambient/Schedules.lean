import Gatehouse.Proofs.Ambient.Promise

/-!
# Every schedule shows the meaning of the program

Turns may come in any order, and verdicts may hold back any wait and any branch. Whatever the
program and its tasks have seen then begins what their bodies mean, and it is all of that once they
have ended. Between turns the slot is empty.
-/
namespace Gatehouse.Ambient

variable {Context : Type}

/-! ## Traces that may still grow -/

mutual

/-- Whether a trace is what another one has been at some time. -/
inductive Trace.Begins : Trace Context → Trace Context → Prop
  | seen (context : Option Context) : Begins (.seen context) (.seen context)
  | nothing : Begins .nothing .nothing
  | list {part whole : List (Trace Context)} :
      Trace.BeginAll part whole → Begins (.list part) (.list whole)

inductive Trace.BeginAll : List (Trace Context) → List (Trace Context) → Prop
  | nil (whole : List (Trace Context)) : BeginAll [] whole
  | cons {first other : Trace Context} {part whole : List (Trace Context)} :
      Trace.Begins first other → Trace.BeginAll part whole →
      BeginAll (first :: part) (other :: whole)

end

mutual

theorem Trace.Begins.refl : (trace : Trace Context) → trace.Begins trace
  | .seen context => .seen context
  | .nothing => .nothing
  | .list entries => .list (Trace.BeginAll.refl entries)

theorem Trace.BeginAll.refl : (traces : List (Trace Context)) → Trace.BeginAll traces traces
  | [] => .nil []
  | first :: rest => .cons (Trace.Begins.refl first) (Trace.BeginAll.refl rest)

end

mutual

theorem Trace.Begins.trans {first second : Trace Context} :
    (third : Trace Context) → first.Begins second → second.Begins third → first.Begins third
  | _, .seen context, .seen _ => .seen context
  | _, .nothing, .nothing => .nothing
  | .list third, .list early, .list late => .list (Trace.BeginAll.trans third early late)

theorem Trace.BeginAll.trans {first second : List (Trace Context)} :
    (third : List (Trace Context)) → Trace.BeginAll first second → Trace.BeginAll second third →
    Trace.BeginAll first third
  | third, .nil _, _ => .nil third
  | third :: rest, .cons here early, .cons there late =>
    .cons (Trace.Begins.trans third here there) (Trace.BeginAll.trans rest early late)

end

theorem Trace.BeginAll.append (done : List (Trace Context)) {part whole : List (Trace Context)}
    (begins : Trace.BeginAll part whole) : Trace.BeginAll (done ++ part) (done ++ whole) := by
  induction done with
  | nil => exact begins
  | cons first rest ih => exact .cons (.refl first) ih

mutual

theorem Entry.resolve_begins {part whole : Nat → List (Trace Context)}
    (begin : ∀ number, Trace.BeginAll (part number) (whole number)) :
    (entry : Entry Context) → (entry.resolve part).Begins (entry.resolve whole)
  | .seen context => .seen context
  | .list entries => .list (Entry.resolveAll_begin begin entries)
  | .nothing => .nothing
  | .task number => .list (begin number)

theorem Entry.resolveAll_begin {part whole : Nat → List (Trace Context)}
    (begin : ∀ number, Trace.BeginAll (part number) (whole number)) :
    (entries : List (Entry Context)) →
    Trace.BeginAll (Entry.resolveAll part entries) (Entry.resolveAll whole entries)
  | [] => .nil []
  | entry :: rest =>
    .cons (Entry.resolve_begins begin entry) (Entry.resolveAll_begin begin rest)

end

mutual

/-- What a body has noted so far begins what it promises. -/
theorem Future.entries_begin (tasks : Nat → List (Trace Context)) (ambient : Option Context) :
    (future : Future Context) →
    Trace.BeginAll (Entry.resolveAll tasks future.entries) (future.promise tasks ambient)
  | .ready _ => .refl _
  | .fresh _ => .nil _
  | .parked done active rest => by
    have here := Active.entry_begins tasks ambient active
    rw [Future.entries, resolveAll_append, Future.promise]
    exact .append _ (.cons here (.nil _))

theorem Active.entry_begins (tasks : Nat → List (Trace Context)) (ambient : Option Context) :
    (active : Active Context) →
    (active.entry.resolve tasks).Begins (active.promise tasks ambient)
  | .scope context inner => .list (Future.entries_begin tasks (some context) inner)
  | .branches list => .list (Future.entriesAll_begin tasks ambient list)
  | .child _ => .refl _
  | .wait => .nothing

theorem Future.entriesAll_begin (tasks : Nat → List (Trace Context)) (ambient : Option Context) :
    (list : List (Future Context)) →
    Trace.BeginAll (Entry.resolveAll tasks (Future.entriesAll list))
      (Future.promises tasks ambient list)
  | [] => .nil []
  | future :: rest =>
    .cons (.list (Future.entries_begin tasks ambient future))
      (Future.entriesAll_begin tasks ambient rest)

end

/-! ## Turns -/

/-- Whether every task of a machine is still that task in a later one. -/
def Follows (before after : Machine Context) : Prop :=
  ∀ (number : Nat) (job : Job Context), before.jobs[number]? = some job →
    ∃ later, after.jobs[number]? = some later ∧ later.scope = job.scope ∧ later.body = job.body

namespace Follows

theorem refl (machine : Machine Context) : Follows machine machine :=
  fun _ job held => ⟨job, held, rfl, rfl⟩

theorem trans {first second third : Machine Context} (early : Follows first second)
    (late : Follows second third) : Follows first third := by
  intro number job held
  obtain ⟨next, heldNext, scope, body⟩ := early number job held
  obtain ⟨last, heldLast, scopeLast, bodyLast⟩ := late number next heldNext
  exact ⟨last, heldLast, scopeLast.trans scope, bodyLast.trans body⟩

theorem fits {before after : Machine Context} (follows : Follows before after) {first : Nat}
    {tasks : Nat → List (Trace Context)} (fits : Fits first tasks after) :
    Fits first tasks before := by
  intro number job bound held
  obtain ⟨later, heldLater, scope, body⟩ := follows number job held
  rw [fits number later bound heldLater, scope, body]

end Follows

theorem Grows.follows {before after : Machine Context} (grows : Grows before after) :
    Follows before after := fun _ job held => ⟨job, grows.held held, rfl, rfl⟩

/-- A turn of a task: the task goes on, and new ones stand behind the others. -/
theorem pollJob_cases (machine : Machine Context) (task : Nat) :
    (machine.jobs[task]? = none ∧ machine.pollJob task = machine)
      ∨ ∃ job after, machine.jobs[task]? = some job
        ∧ after = job.future.poll (machine.setSlot job.scope)
        ∧ Grows (machine.setSlot job.scope) after.2
        ∧ (machine.pollJob task).slot = machine.slot
        ∧ (machine.pollJob task).jobs = after.2.jobs.set task { job with future := after.1 } := by
  cases held : machine.jobs[task]? with
  | none => exact .inl ⟨rfl, by simp only [Machine.pollJob, held]⟩
  | some job =>
    refine .inr ⟨job, _, rfl, rfl, Future.poll_grows _ _, ?_, ?_⟩
    · simp only [Machine.pollJob, held, Machine.setSlot]
    · simp only [Machine.pollJob, held]

theorem held_set {jobs : List (Job Context)} {task number : Nat} {next job : Job Context}
    (held : (jobs.set task next)[number]? = some job) :
    (number = task ∧ job = next) ∨ jobs[number]? = some job := by
  rw [List.getElem?_set] at held
  split at held
  next same =>
    split at held
    · exact .inl ⟨same.symm, (Option.some.inj held).symm⟩
    · cases held
  next => exact .inr held

theorem follows_set {before after : Machine Context} {task : Nat} {job : Job Context}
    {future : Future Context} (held : before.jobs[task]? = some job)
    (jobs : after.jobs = before.jobs.set task { job with future := future }) :
    Follows before after := by
  intro number other heldOther
  by_cases same : task = number
  · subst same
    obtain rfl := Option.some.inj (held.symm.trans heldOther)
    refine ⟨{ job with future := future }, ?_, rfl, rfl⟩
    rw [jobs, List.getElem?_set_self (List.getElem?_eq_some_iff.mp held).1]
  · refine ⟨other, ?_, rfl, rfl⟩
    rw [jobs, List.getElem?_set_ne same]
    exact heldOther

theorem pollJob_follows (machine : Machine Context) (task : Nat) :
    Follows machine (machine.pollJob task) := by
  rcases pollJob_cases machine task with ⟨_, same⟩ | ⟨job, after, held, rfl, grows, _, jobs⟩
  · rw [same]
    exact .refl machine
  · exact grows.follows.trans (follows_set (grows.held held) jobs)

theorem takeTurn_follows (turn : Turn) (state : Future Context × Machine Context) :
    Follows state.2 (takeTurn turn state).2 := by
  cases turn with
  | program => exact (Future.poll_grows state.1 state.2).follows
  | task number => exact pollJob_follows state.2 number

theorem takeTurns_follows (turns : List Turn) (state : Future Context × Machine Context) :
    Follows state.2 (takeTurns turns state).2 := by
  induction turns generalizing state with
  | nil => exact .refl state.2
  | cons turn rest ih => exact (takeTurn_follows turn state).trans (ih (takeTurn turn state))

/-! ## Runs -/

/-- Between turns the slot is empty, and what the program and its tasks promise, given what later
tasks see, is what their bodies mean. -/
structure Coherent (body : List (Step Context)) (last : Machine Context)
    (state : Future Context × Machine Context) : Prop where
  slot : state.2.slot = none
  program : ∀ tasks, Fits 0 tasks last → state.1.promise tasks none = Step.meanings none body
  jobs : ∀ (number : Nat) (job : Job Context), state.2.jobs[number]? = some job →
    ∀ tasks, Fits (number + 1) tasks last →
      job.future.promise tasks job.scope = Step.meanings job.scope job.body

/-- A new task promises what its body means. -/
theorem Coherent.fresh {body : List (Step Context)} {last before after : Machine Context}
    {future : Future Context} (coherent : Coherent body last (future, before))
    {slot : Option Context} (grows : Grows (before.setSlot slot) after) :
    ∀ (number : Nat) (job : Job Context), after.jobs[number]? = some job →
      ∀ tasks, Fits (number + 1) tasks last →
        job.future.promise tasks job.scope = Step.meanings job.scope job.body := by
  intro number job held tasks fits
  rcases grows.held_or_fresh held with known | fresh
  · exact coherent.jobs number job known tasks fits
  · rw [fresh]
    rfl

/-- One turn keeps a state coherent. -/
theorem Coherent.takeTurn {body : List (Step Context)} {last : Machine Context}
    {state : Future Context × Machine Context} (coherent : Coherent body last state) (turn : Turn)
    (follows : Follows (takeTurn turn state).2 last) :
    Coherent body last (takeTurn turn state) := by
  obtain ⟨future, machine⟩ := state
  cases turn with
  | program =>
    have grows := Future.poll_grows future machine
    constructor
    case slot => exact grows.slot.trans coherent.slot
    case program =>
      intro tasks fits
      have kept := Future.poll_promise future machine (Nat.zero_le _) (follows.fits fits)
      rw [show machine.slot = none from coherent.slot] at kept
      exact kept.trans (coherent.program tasks fits)
    case jobs =>
      have same : machine.setSlot machine.slot = machine := rfl
      exact coherent.fresh (same ▸ grows)
  | task number =>
    rcases pollJob_cases machine number with
      ⟨_, same⟩ | ⟨job, after, held, polled, grows, slot, jobs⟩
    · simp only [Ambient.takeTurn, same]
      exact coherent
    · have reaches : Follows after.2 last :=
        (follows_set (grows.held held) jobs).trans follows
      constructor
      case slot => exact slot.trans coherent.slot
      case program => exact coherent.program
      case jobs =>
        intro other next heldNext tasks fits
        replace heldNext : (machine.pollJob number).jobs[other]? = some next := heldNext
        rw [jobs] at heldNext
        rcases held_set heldNext with ⟨rfl, rfl⟩ | heldNext
        · -- The task that went on keeps its promise, as all tasks behind it are to fit.
          have bound : other + 1 ≤ machine.jobs.length := (List.getElem?_eq_some_iff.mp held).1
          have kept := Future.poll_promise job.future (machine.setSlot job.scope) bound
            (polled ▸ reaches.fits fits)
          rw [← polled] at kept
          exact kept.trans (coherent.jobs other job held tasks fits)
        · exact coherent.fresh grows other next heldNext tasks fits

/-- Any turns keep a state coherent. -/
theorem Coherent.takeTurns {body : List (Step Context)} {last : Machine Context}
    (turns : List Turn) {state : Future Context × Machine Context}
    (coherent : Coherent body last state) (follows : Follows (takeTurns turns state).2 last) :
    Coherent body last (takeTurns turns state) := by
  induction turns generalizing state with
  | nil => exact coherent
  | cons turn rest ih =>
    have reaches := (takeTurns_follows rest (Ambient.takeTurn turn state)).trans follows
    exact ih (coherent.takeTurn turn reaches) follows

theorem coherent_start (body : List (Step Context)) (last : Machine Context)
    (verdicts : List Bool) : Coherent body last (.fresh body, ⟨none, [], verdicts⟩) :=
  ⟨rfl, fun _ _ => rfl, fun _ _ held => nomatch held⟩

/-! ## Traces of tasks -/

/-- What the tasks of a machine are to see. -/
def meant (machine : Machine Context) (number : Nat) : List (Trace Context) :=
  match machine.jobs[number]? with
  | some job => Step.meanings job.scope job.body
  | none => []

theorem fits_meant (first : Nat) (machine : Machine Context) :
    Fits first (meant machine) machine := by
  intro number job _ held
  simp only [meant, held]

theorem tracesFrom_begin {whole : Nat → List (Trace Context)} (first : Nat)
    (jobs : List (Job Context))
    (begin : ∀ (index : Nat) (job : Job Context), jobs[index]? = some job →
      Trace.BeginAll (Entry.resolveAll whole job.future.entries) (whole (first + index)))
    (number : Nat) : Trace.BeginAll (tracesFrom first jobs number) (whole number) := by
  -- The trace of the first task holds traces of later ones only, and those begin by induction.
  induction jobs generalizing first number with
  | nil => exact .nil _
  | cons job rest ih =>
    have later : ∀ number, Trace.BeginAll (tracesFrom (first + 1) rest number) (whole number) := by
      apply ih (first + 1)
      intro index other held
      rw [Nat.add_assoc, Nat.add_comm 1]
      exact begin (index + 1) other held
    rw [tracesFrom]
    split
    next same =>
      subst same
      exact (Entry.resolveAll_begin later _).trans _ (begin 0 job rfl)
    next => exact later number

/-- Once all tasks have ended, their traces are what their bodies mean: a trace depends on those of
later tasks only, so this goes from the last task to the first. -/
theorem tracesFrom_fits {machine : Machine Context} (first : Nat) (jobs : List (Job Context))
    (behind : machine.jobs.drop first = jobs) (ended : ∀ job ∈ jobs, job.future.isReady = true)
    (promise : ∀ (number : Nat) (job : Job Context), machine.jobs[number]? = some job →
      ∀ tasks, Fits (number + 1) tasks machine →
        job.future.promise tasks job.scope = Step.meanings job.scope job.body) :
    Fits first (tracesFrom first jobs) machine := by
  induction jobs generalizing first with
  | nil =>
    intro number job bound held
    have inside := (List.getElem?_eq_some_iff.mp held).1
    have outside := List.drop_eq_nil_iff.mp behind
    omega
  | cons job rest ih =>
    have head : machine.jobs[first]? = some job := by
      rw [← List.head?_drop, behind, List.head?_cons]
    have tail : machine.jobs.drop (first + 1) = rest := by
      rw [← List.tail_drop, behind, List.tail_cons]
    have later := ih (first + 1) tail fun other member =>
      ended other (List.mem_cons_of_mem _ member)
    intro number other bound held
    rw [tracesFrom]
    split
    next same =>
      subst same
      obtain rfl := Option.some.inj (head.symm.trans held)
      have kept := promise number job head _ later
      have ready := ended job List.mem_cons_self
      cases future : job.future with
      | ready entries =>
        rw [future] at kept
        exact kept
      | fresh body =>
        rw [future] at ready
        cases ready
      | parked done active rest =>
        rw [future] at ready
        cases ready
    next differs => exact later number other (by omega) held

/-- Under every schedule, what the program and its tasks have seen so far begins what their bodies
mean, and is all of it once they have ended. -/
theorem Coherent.traces {body : List (Step Context)} {state : Future Context × Machine Context}
    (coherent : Coherent body state.2 state) :
    Trace.BeginAll (programTrace state) (Step.meanings none body)
      ∧ (∀ (number : Nat) (job : Job Context), state.2.jobs[number]? = some job →
          Trace.BeginAll (state.2.traces number) (Step.meanings job.scope job.body))
      ∧ (isOver state = true → programTrace state = Step.meanings none body
          ∧ ∀ (number : Nat) (job : Job Context), state.2.jobs[number]? = some job →
            state.2.traces number = Step.meanings job.scope job.body) := by
  -- What the tasks are to see fits the machine at any time, what they have seen fits it at the end.
  have begin : ∀ number, Trace.BeginAll (state.2.traces number) (meant state.2 number) := by
    apply tracesFrom_begin 0 state.2.jobs
    intro number job held
    have kept := coherent.jobs number job held _ (fits_meant _ state.2)
    rw [Nat.zero_add, fits_meant 0 state.2 number job (Nat.zero_le _) held, ← kept]
    exact Future.entries_begin _ _ _
  refine ⟨?_, ?_, ?_⟩
  · rw [← coherent.program _ (fits_meant 0 state.2)]
    exact (Entry.resolveAll_begin begin _).trans _ (Future.entries_begin _ _ _)
  · intro number job held
    rw [← fits_meant 0 state.2 number job (Nat.zero_le _) held]
    exact begin number
  · intro final
    rw [isOver, Bool.and_eq_true, List.all_eq_true] at final
    have fits : Fits 0 state.2.traces state.2 :=
      tracesFrom_fits 0 state.2.jobs rfl final.2 coherent.jobs
    refine ⟨?_, fun number job => fits number job (Nat.zero_le _)⟩
    have kept := coherent.program _ fits
    have ready := final.1
    obtain ⟨future, machine⟩ := state
    cases future with
    | ready entries => exact kept
    | fresh body => cases ready
    | parked done active rest => cases ready

end Gatehouse.Ambient
