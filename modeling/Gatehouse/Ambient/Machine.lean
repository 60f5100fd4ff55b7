import Gatehouse.Ambient.Program

/-!
# The slot machine

How ambient context comes about when tasks run in turns. One slot holds the context of what is
running. A scope puts its context there whenever it is asked to go on, and puts back what it found
when it has to wait; a task finds the slot as its own scope has it. Which waits are over at which
turn, and which branches of a join go on, is decided by a list of verdicts, so every interleaving of
tasks and branches is a run on some list.
-/
namespace Gatehouse.Ambient

variable {Context : Type}

/-- What a task has noted: what it saw, and the tasks that it started. -/
inductive Entry (Context : Type)
  | seen (context : Option Context)
  | list (entries : List (Entry Context))
  | nothing
  | task (number : Nat)

mutual

/-- A body that has ended, one that has not begun, or what is left of one that waits. -/
inductive Future (Context : Type)
  | ready (entries : List (Entry Context))
  | fresh (body : List (Step Context))
  | parked (done : List (Entry Context)) (active : Active Context) (rest : List (Step Context))

/-- What a body waits for. -/
inductive Active (Context : Type)
  | scope (context : Context) (inner : Future Context)
  | branches (list : List (Future Context))
  | child (task : Nat)
  | wait

end

/-- A task with the context and the body that it was started with. -/
structure Job (Context : Type) where
  scope : Option Context
  body : List (Step Context)
  future : Future Context

structure Machine (Context : Type) where
  slot : Option Context
  jobs : List (Job Context)
  verdicts : List Bool

def Future.isReady : Future Context → Bool
  | .ready _ => true
  | .fresh _ => false
  | .parked .. => false

namespace Machine

def setSlot (machine : Machine Context) (slot : Option Context) : Machine Context :=
  { machine with slot := slot }

/-- Takes the next verdict; without one, it is favourable. -/
def verdict (machine : Machine Context) : Bool × Machine Context :=
  match machine.verdicts with
  | [] => (true, machine)
  | goesOn :: rest => (goesOn, { machine with verdicts := rest })

/-- Starts a task; it runs when its turn comes. -/
def start (machine : Machine Context) (scope : Option Context) (body : List (Step Context)) :
    Nat × Machine Context :=
  (machine.jobs.length, { machine with jobs := machine.jobs ++ [⟨scope, body, .fresh body⟩] })

def hasEnded (machine : Machine Context) (task : Nat) : Bool :=
  machine.jobs[task]?.any fun job => job.future.isReady

end Machine

/-- A step that is over, or what it waits for. -/
inductive Progress (Context : Type)
  | ends (entry : Entry Context)
  | waits (active : Active Context)

mutual

def Block.execute : Block Context → Machine Context → Entry Context × Machine Context
  | .observe, machine => (.seen machine.slot, machine)
  | .run context body, machine =>
    let outer := machine.slot
    let (entries, machine) := Block.executeAll body (machine.setSlot (some context))
    (.list entries, machine.setSlot outer)
  | .detach handsOver body, machine =>
    let (task, machine) := machine.start (inherited handsOver machine.slot) body
    (.task task, machine)

def Block.executeAll : List (Block Context) → Machine Context →
    List (Entry Context) × Machine Context
  | [], machine => ([], machine)
  | step :: rest, machine =>
    let (entry, machine) := step.execute machine
    let (entries, machine) := Block.executeAll rest machine
    (entry :: entries, machine)

end

/-- The branches' entries, once all have ended. -/
def allReady : List (Future Context) → Option (List (Entry Context))
  | [] => some []
  | .ready entries :: rest => (allReady rest).map (.list entries :: ·)
  | .fresh _ :: _ => none
  | .parked .. :: _ => none

/-- A join that was asked to go on. -/
def Progress.ofBranches (branches : List (Future Context)) : Progress Context :=
  match allReady branches with
  | some entries => .ends (.list entries)
  | none => .waits (.branches branches)

/-- A scope that was asked to go on. -/
def Progress.ofScope (context : Context) (inner : Future Context) : Progress Context :=
  match inner with
  | .ready entries => .ends (.list entries)
  | .fresh body => .waits (.scope context (.fresh body))
  | .parked done active rest => .waits (.scope context (.parked done active rest))

mutual

/-- Begins a step and goes on until it is over or waits. -/
def Step.begin : Step Context → Machine Context → Progress Context × Machine Context
  | .observe, machine => (.ends (.seen machine.slot), machine)
  | .run context body, machine =>
    let outer := machine.slot
    let (inner, machine) := Step.beginAll body [] (machine.setSlot (some context))
    -- The slot is put back also when the body waits, for whatever has its turn meanwhile.
    (.ofScope context inner, machine.setSlot outer)
  | .runBlocking context body, machine =>
    let outer := machine.slot
    let (entries, machine) := Block.executeAll body (machine.setSlot (some context))
    (.ends (.list entries), machine.setSlot outer)
  | .spawn body, machine =>
    let (task, machine) := machine.start none body
    (.waits (.child task), machine)
  | .spawnWithContext body, machine =>
    let (task, machine) := machine.start machine.slot body
    (.waits (.child task), machine)
  | .detach handsOver body, machine =>
    let (task, machine) := machine.start (inherited handsOver machine.slot) body
    (.ends (.task task), machine)
  | .join branches, machine =>
    let (futures, machine) := Step.beginBranches branches machine
    (.ofBranches futures, machine)
  | .wait, machine => (.waits .wait, machine)

/-- Begins the steps of a body in turn; `done` holds the entries before them, last first. -/
def Step.beginAll : List (Step Context) → List (Entry Context) → Machine Context →
    Future Context × Machine Context
  | [], done, machine => (.ready done.reverse, machine)
  | step :: rest, done, machine =>
    match step.begin machine with
    | (.ends entry, machine) => Step.beginAll rest (entry :: done) machine
    | (.waits active, machine) => (.parked done active rest, machine)

/-- Begins the branches that may go on. -/
def Step.beginBranches : List (List (Step Context)) → Machine Context →
    List (Future Context) × Machine Context
  | [], machine => ([], machine)
  | body :: rest, machine =>
    let (goesOn, machine) := machine.verdict
    let (future, machine) :=
      if goesOn then Step.beginAll body [] machine else (.fresh body, machine)
    let (futures, machine) := Step.beginBranches rest machine
    (future :: futures, machine)

end

mutual

/-- Asks a body to go on. -/
def Future.poll : Future Context → Machine Context → Future Context × Machine Context
  | .ready entries, machine => (.ready entries, machine)
  | .fresh body, machine => Step.beginAll body [] machine
  | .parked done active rest, machine =>
    match active.poll machine with
    | (.ends entry, machine) => Step.beginAll rest (entry :: done) machine
    | (.waits active, machine) => (.parked done active rest, machine)

def Active.poll : Active Context → Machine Context → Progress Context × Machine Context
  | .scope context inner, machine =>
    let outer := machine.slot
    let (inner, machine) := inner.poll (machine.setSlot (some context))
    (.ofScope context inner, machine.setSlot outer)
  | .branches list, machine =>
    let (list, machine) := Future.pollAll list machine
    (.ofBranches list, machine)
  | .child task, machine =>
    (if machine.hasEnded task then .ends (.task task) else .waits (.child task), machine)
  | .wait, machine =>
    let (isOver, machine) := machine.verdict
    (if isOver then .ends .nothing else .waits .wait, machine)

/-- Asks the branches that may go on. -/
def Future.pollAll : List (Future Context) → Machine Context →
    List (Future Context) × Machine Context
  | [], machine => ([], machine)
  | future :: rest, machine =>
    let (goesOn, machine) := machine.verdict
    let (future, machine) := if goesOn then future.poll machine else (future, machine)
    let (rest, machine) := Future.pollAll rest machine
    (future :: rest, machine)

end

/-! ## Turns -/

/-- Asks a task to go on: it finds the slot as its scope leaves it, and leaves it as it was. -/
def Machine.pollJob (machine : Machine Context) (task : Nat) : Machine Context :=
  match machine.jobs[task]? with
  | none => machine
  | some job =>
    let outer := machine.slot
    let (future, machine) := job.future.poll (machine.setSlot job.scope)
    { machine.setSlot outer with jobs := machine.jobs.set task { job with future := future } }

/-- A turn of the program itself, or of a task that it started. -/
inductive Turn
  | program
  | task (number : Nat)

def takeTurn (turn : Turn) (state : Future Context × Machine Context) :
    Future Context × Machine Context :=
  match turn with
  | .program => state.1.poll state.2
  | .task number => (state.1, state.2.pollJob number)

def takeTurns (turns : List Turn) (state : Future Context × Machine Context) :
    Future Context × Machine Context :=
  turns.foldl (fun state turn => takeTurn turn state) state

/-! ## Traces -/

mutual

/-- What a body has noted so far. -/
def Future.entries : Future Context → List (Entry Context)
  | .ready entries => entries
  | .fresh _ => []
  | .parked done active _ => done.reverse ++ [active.entry]

def Active.entry : Active Context → Entry Context
  | .scope _ inner => .list inner.entries
  | .branches list => .list (Future.entriesAll list)
  | .child task => .task task
  | .wait => .nothing

def Future.entriesAll : List (Future Context) → List (Entry Context)
  | [] => []
  | future :: rest => .list future.entries :: Future.entriesAll rest

end

mutual

/-- What an entry stands for, given what the tasks saw. -/
def Entry.resolve (tasks : Nat → List (Trace Context)) : Entry Context → Trace Context
  | .seen context => .seen context
  | .list entries => .list (Entry.resolveAll tasks entries)
  | .nothing => .nothing
  | .task number => .list (tasks number)

def Entry.resolveAll (tasks : Nat → List (Trace Context)) :
    List (Entry Context) → List (Trace Context)
  | [] => []
  | entry :: rest => entry.resolve tasks :: Entry.resolveAll tasks rest

end

/-- What tasks with numbers from `first` on have seen. A task starts later ones only. -/
def tracesFrom (first : Nat) : List (Job Context) → Nat → List (Trace Context)
  | [], _ => []
  | job :: rest, number =>
    if number = first then Entry.resolveAll (tracesFrom (first + 1) rest) job.future.entries
    else tracesFrom (first + 1) rest number

/-- What each task has seen. -/
def Machine.traces (machine : Machine Context) : Nat → List (Trace Context) :=
  tracesFrom 0 machine.jobs

/-- What the program has seen, with the tasks that it started in their places. -/
def programTrace (state : Future Context × Machine Context) : List (Trace Context) :=
  Entry.resolveAll state.2.traces state.1.entries

/-- What steps that cannot wait see outside of any program. -/
def Block.performAll (machine : Machine Context) (body : List (Block Context)) :
    List (Trace Context) :=
  let (entries, machine) := Block.executeAll body machine
  Entry.resolveAll machine.traces entries

/-! ## Rounds -/

/-- Whether the program and all tasks have ended. -/
def isOver (state : Future Context × Machine Context) : Bool :=
  state.1.isReady && state.2.jobs.all fun job => job.future.isReady

/-- A turn for the program and for every task there is. -/
def roundTurns (machine : Machine Context) : List Turn :=
  .program :: (List.range machine.jobs.length).map .task

def runRounds : Nat → Future Context × Machine Context → Future Context × Machine Context
  | 0, state => state
  | budget + 1, state =>
    if isOver state then state else runRounds budget (takeTurns (roundTurns state.2) state)

mutual

def Block.size : Block Context → Nat
  | .observe => 1
  | .run _ body => 1 + Block.sizeAll body
  | .detach _ body => 1 + Step.sizeAll body

def Block.sizeAll : List (Block Context) → Nat
  | [] => 0
  | step :: rest => step.size + Block.sizeAll rest

/-- The number of steps in a step, itself included. -/
def Step.size : Step Context → Nat
  | .observe => 1
  | .run _ body => 1 + Step.sizeAll body
  | .runBlocking _ body => 1 + Block.sizeAll body
  | .spawn body => 1 + Step.sizeAll body
  | .spawnWithContext body => 1 + Step.sizeAll body
  | .detach _ body => 1 + Step.sizeAll body
  | .join branches => 1 + Step.sizeBranches branches
  | .wait => 1

def Step.sizeAll : List (Step Context) → Nat
  | [] => 0
  | step :: rest => step.size + Step.sizeAll rest

def Step.sizeBranches : List (List (Step Context)) → Nat
  | [] => 0
  | body :: rest => Step.sizeAll body + Step.sizeBranches rest

end

/-- Runs a program in rounds. Every round ends a wait at least or begins a task, and no step does
more than both. -/
def runProgram (body : List (Step Context)) : Option (List (Trace Context)) × Option Context :=
  let state := runRounds (2 * Step.sizeAll body + 2) (.fresh body, ⟨none, [], []⟩)
  (if isOver state then some (programTrace state) else none, state.2.slot)

end Gatehouse.Ambient
