import Gatehouse.Proofs.Ambient.Growth

/-!
# What a body is going to have seen

A body that waits promises a trace: what it has noted, what it waits for, and what the rest of it
means under the context that is ambient where it stands. Asking it to go on changes nothing about
the promise, so at the end the promise of the whole body has come true.
-/
namespace Gatehouse.Ambient

variable {Context : Type}

mutual

/-- The trace that a body comes to when it is asked under `ambient` and tasks see `tasks`. -/
def Future.promise (tasks : Nat → List (Trace Context)) (ambient : Option Context) :
    Future Context → List (Trace Context)
  | .ready entries => Entry.resolveAll tasks entries
  | .fresh body => Step.meanings ambient body
  | .parked done active rest =>
    Entry.resolveAll tasks done.reverse
      ++ active.promise tasks ambient :: Step.meanings ambient rest

def Active.promise (tasks : Nat → List (Trace Context)) (ambient : Option Context) :
    Active Context → Trace Context
  | .scope context inner => .list (inner.promise tasks (some context))
  | .branches list => .list (Future.promises tasks ambient list)
  | .child task => .list (tasks task)
  | .wait => .nothing

def Future.promises (tasks : Nat → List (Trace Context)) (ambient : Option Context) :
    List (Future Context) → List (Trace Context)
  | [] => []
  | future :: rest => .list (future.promise tasks ambient) :: Future.promises tasks ambient rest

end

def Progress.promise (tasks : Nat → List (Trace Context)) (ambient : Option Context) :
    Progress Context → Trace Context
  | .ends entry => entry.resolve tasks
  | .waits active => active.promise tasks ambient

/-- Whether tasks from a first one on see what their bodies mean in the contexts that they were
started with. -/
def Fits (first : Nat) (tasks : Nat → List (Trace Context)) (machine : Machine Context) : Prop :=
  ∀ (number : Nat) (job : Job Context), first ≤ number → machine.jobs[number]? = some job →
    tasks number = Step.meanings job.scope job.body

theorem Grows.fits {before after : Machine Context} (grows : Grows before after) {first : Nat}
    {tasks : Nat → List (Trace Context)} (fits : Fits first tasks after) :
    Fits first tasks before :=
  fun number job bound held => fits number job bound (grows.held held)

/-! ## Promises are kept -/

theorem Fits.of_start {first : Nat} {tasks : Nat → List (Trace Context)}
    {machine : Machine Context} {scope : Option Context} {body : List (Step Context)}
    (bound : first ≤ machine.jobs.length) (fits : Fits first tasks (machine.start scope body).2) :
    tasks (machine.start scope body).1 = Step.meanings scope body := by
  refine fits _ ⟨scope, body, .fresh body⟩ bound ?_
  simp [Machine.start]

theorem resolveAll_append (tasks : Nat → List (Trace Context))
    (first second : List (Entry Context)) :
    Entry.resolveAll tasks (first ++ second)
      = Entry.resolveAll tasks first ++ Entry.resolveAll tasks second := by
  induction first with
  | nil => rfl
  | cons entry rest ih => simp only [List.cons_append, Entry.resolveAll, ih]

theorem promise_ofScope (tasks : Nat → List (Trace Context)) (ambient : Option Context)
    (context : Context) (inner : Future Context) :
    (Progress.ofScope context inner).promise tasks ambient
      = .list (inner.promise tasks (some context)) := by
  cases inner <;> simp [Progress.ofScope, Progress.promise, Entry.resolve, Active.promise,
    Future.promise]

theorem resolveAll_allReady {tasks : Nat → List (Trace Context)} {ambient : Option Context}
    {list : List (Future Context)} {entries : List (Entry Context)}
    (ready : allReady list = some entries) :
    Entry.resolveAll tasks entries = Future.promises tasks ambient list := by
  induction list generalizing entries with
  | nil =>
    cases ready
    rfl
  | cons future rest ih =>
    cases future with
    | ready own =>
      rw [allReady, Option.map_eq_some_iff] at ready
      obtain ⟨others, readyRest, rfl⟩ := ready
      simp only [Entry.resolveAll, Entry.resolve, Future.promises, Future.promise, ih readyRest]
    | fresh body => cases ready
    | parked done active rest => cases ready

theorem promise_ofBranches (tasks : Nat → List (Trace Context)) (ambient : Option Context)
    (list : List (Future Context)) :
    (Progress.ofBranches list).promise tasks ambient
      = .list (Future.promises tasks ambient list) := by
  unfold Progress.ofBranches
  split
  next entries ready => exact congrArg Trace.list (resolveAll_allReady ready)
  next => rfl

variable {first : Nat} {tasks : Nat → List (Trace Context)}

/-- A body whose next step comes to `trace`, now or once it has waited, still promises that trace
between what it has noted and what the rest of it means. -/
theorem continueWith_promise {done : List (Entry Context)} {rest : List (Step Context)}
    {machine : Machine Context} {reached : Progress Context × Machine Context}
    {trace : Trace Context} (bound : first ≤ machine.jobs.length) (grows : Grows machine reached.2)
    (here : Fits first tasks reached.2 → reached.1.promise tasks machine.slot = trace)
    (others : ∀ done (after : Machine Context), first ≤ after.jobs.length →
      Fits first tasks (Step.beginAll rest done after).2 →
      (Step.beginAll rest done after).1.promise tasks after.slot
        = Entry.resolveAll tasks done.reverse ++ Step.meanings after.slot rest)
    (fits : Fits first tasks (continueWith done rest reached).2) :
    (continueWith done rest reached).1.promise tasks machine.slot
      = Entry.resolveAll tasks done.reverse ++ trace :: Step.meanings machine.slot rest := by
  obtain ⟨progress, after⟩ := reached
  cases progress with
  | ends entry =>
    have fitsLast : Fits first tasks (Step.beginAll rest (entry :: done) after).2 := fits
    have fitsAfter := (Step.beginAll_grows rest (entry :: done) after).fits fitsLast
    have noted : entry.resolve tasks = trace := here fitsAfter
    have later := others (entry :: done) after (Nat.le_trans bound grows.length_le) fitsLast
    -- The rest begins in the slot that the step has left as it was.
    rw [show after.slot = machine.slot from grows.slot, List.reverse_cons, resolveAll_append,
      List.append_assoc] at later
    rw [← noted]
    exact later
  | waits active =>
    have promised : active.promise tasks machine.slot = trace := here fits
    rw [← promised]
    rfl

theorem askBranch_promise {future : Future Context} {machine : Machine Context}
    (bound : first ≤ machine.jobs.length)
    (own : ∀ after : Machine Context, first ≤ after.jobs.length →
      Fits first tasks (future.poll after).2 →
      (future.poll after).1.promise tasks after.slot = future.promise tasks after.slot)
    (fits : Fits first tasks (future.askBranch machine).2) :
    (future.askBranch machine).1.promise tasks machine.slot
      = future.promise tasks machine.slot := by
  have asked := Grows.verdict machine
  unfold Future.askBranch at fits ⊢
  by_cases goesOn : machine.verdict.1 = true
  · rw [if_pos goesOn] at fits ⊢
    have kept := own machine.verdict.2 (Nat.le_trans bound asked.length_le) fits
    rw [asked.slot] at kept
    exact kept
  · rw [if_neg goesOn]

mutual

theorem Block.execute_resolve : (step : Block Context) → (machine : Machine Context) →
    first ≤ machine.jobs.length → Fits first tasks (step.execute machine).2 →
    (step.execute machine).1.resolve tasks = step.meaning machine.slot
  | .observe, _, _, _ => rfl
  | .run context body, machine, bound, fits => by
    have inside := Block.executeAll_resolve body (machine.setSlot (some context)) bound fits
    exact congrArg Trace.list inside
  | .detach _ _, _, bound, fits => congrArg Trace.list (fits.of_start bound)

theorem Block.executeAll_resolve : (body : List (Block Context)) → (machine : Machine Context) →
    first ≤ machine.jobs.length → Fits first tasks (Block.executeAll body machine).2 →
    Entry.resolveAll tasks (Block.executeAll body machine).1 = Block.meanings machine.slot body
  | [], _, _, _ => rfl
  | step :: rest, machine, bound, fits => by
    have grows := Block.execute_grows step machine
    have growsOn := Block.executeAll_grows rest (step.execute machine).2
    have here := Block.execute_resolve step machine bound (growsOn.fits fits)
    have others := Block.executeAll_resolve rest (step.execute machine).2
      (Nat.le_trans bound grows.length_le) fits
    rw [grows.slot] at others
    simp only [Block.executeAll, Entry.resolveAll, Block.meanings, here, others]

end

mutual

theorem Step.begin_promise : (step : Step Context) → (machine : Machine Context) →
    first ≤ machine.jobs.length → Fits first tasks (step.begin machine).2 →
    (step.begin machine).1.promise tasks machine.slot = step.meaning machine.slot
  | .observe, _, _, _ => rfl
  | .run context body, machine, bound, fits => by
    have inside := Step.beginAll_promise body [] (machine.setSlot (some context)) bound fits
    exact (promise_ofScope tasks machine.slot context _).trans (congrArg Trace.list inside)
  | .runBlocking context body, machine, bound, fits => by
    have inside := Block.executeAll_resolve body (machine.setSlot (some context)) bound fits
    exact congrArg Trace.list inside
  | .spawn _, _, bound, fits => congrArg Trace.list (fits.of_start bound)
  | .spawnWithContext _, _, bound, fits => congrArg Trace.list (fits.of_start bound)
  | .detach _ _, _, bound, fits => congrArg Trace.list (fits.of_start bound)
  | .join branches, machine, bound, fits => by
    have inside := Step.beginBranches_promises branches machine bound fits
    exact (promise_ofBranches tasks machine.slot _).trans (congrArg Trace.list inside)
  | .wait, _, _, _ => rfl

theorem Step.beginAll_promise : (body : List (Step Context)) → (done : List (Entry Context)) →
    (machine : Machine Context) → first ≤ machine.jobs.length →
    Fits first tasks (Step.beginAll body done machine).2 →
    (Step.beginAll body done machine).1.promise tasks machine.slot
      = Entry.resolveAll tasks done.reverse ++ Step.meanings machine.slot body
  | [], done, machine, _, _ => (List.append_nil _).symm
  | step :: rest, done, machine, bound, fits => by
    have here := Step.begin_promise step machine bound
    rw [beginAll_cons] at fits ⊢
    exact continueWith_promise bound (Step.begin_grows step machine) here
      (Step.beginAll_promise rest) fits

theorem Step.beginBranches_promises : (branches : List (List (Step Context))) →
    (machine : Machine Context) → first ≤ machine.jobs.length →
    Fits first tasks (Step.beginBranches branches machine).2 →
    Future.promises tasks machine.slot (Step.beginBranches branches machine).1
      = Step.branchMeanings machine.slot branches
  | [], machine, _, _ => rfl
  | body :: rest, machine, bound, fits => by
    let asked := (Future.fresh body).askBranch machine
    have grows : Grows machine asked.2 := askBranch_grows (Step.beginAll_grows body []) machine
    have fitsHere : Fits first tasks asked.2 := (Step.beginBranches_grows rest asked.2).fits fits
    have here : asked.1.promise tasks machine.slot = Step.meanings machine.slot body :=
      askBranch_promise bound (Step.beginAll_promise body []) fitsHere
    have others := Step.beginBranches_promises rest asked.2
      (Nat.le_trans bound grows.length_le) fits
    rw [grows.slot] at others
    rw [beginBranches_cons, Future.promises, Step.branchMeanings, here, others]

end

mutual

/-- Going on keeps the promise that stands under what is in the slot. -/
theorem Future.poll_promise : (future : Future Context) → (machine : Machine Context) →
    first ≤ machine.jobs.length → Fits first tasks (future.poll machine).2 →
    (future.poll machine).1.promise tasks machine.slot = future.promise tasks machine.slot
  | .ready _, _, _, _ => rfl
  | .fresh body, machine, bound, fits => Step.beginAll_promise body [] machine bound fits
  | .parked done active rest, machine, bound, fits => by
    have here := Active.poll_promise active machine bound
    rw [poll_parked] at fits ⊢
    exact continueWith_promise bound (Active.poll_grows active machine) here
      (Step.beginAll_promise rest) fits

theorem Active.poll_promise : (active : Active Context) → (machine : Machine Context) →
    first ≤ machine.jobs.length → Fits first tasks (active.poll machine).2 →
    (active.poll machine).1.promise tasks machine.slot = active.promise tasks machine.slot
  | .scope context inner, machine, bound, fits => by
    have inside := Future.poll_promise inner (machine.setSlot (some context)) bound fits
    exact (promise_ofScope tasks machine.slot context _).trans (congrArg Trace.list inside)
  | .branches list, machine, bound, fits => by
    have inside := Future.pollAll_promises list machine bound fits
    exact (promise_ofBranches tasks machine.slot _).trans (congrArg Trace.list inside)
  | .child task, machine, _, _ => by
    simp only [Active.poll]
    split <;> rfl
  | .wait, machine, _, _ => by
    simp only [Active.poll]
    split <;> rfl

theorem Future.pollAll_promises : (list : List (Future Context)) → (machine : Machine Context) →
    first ≤ machine.jobs.length → Fits first tasks (Future.pollAll list machine).2 →
    Future.promises tasks machine.slot (Future.pollAll list machine).1
      = Future.promises tasks machine.slot list
  | [], _, _, _ => rfl
  | future :: rest, machine, bound, fits => by
    let asked := future.askBranch machine
    have grows : Grows machine asked.2 := askBranch_grows (Future.poll_grows future) machine
    have fitsHere : Fits first tasks asked.2 := (Future.pollAll_grows rest asked.2).fits fits
    have here : asked.1.promise tasks machine.slot = future.promise tasks machine.slot :=
      askBranch_promise bound (Future.poll_promise future) fitsHere
    have others := Future.pollAll_promises rest asked.2
      (Nat.le_trans bound grows.length_le) fits
    rw [grows.slot] at others
    rw [pollAll_cons, Future.promises, Future.promises, here, others]

end

end Gatehouse.Ambient
