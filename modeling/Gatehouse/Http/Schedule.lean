import Gatehouse.Http.Exchange

/-!
# Running exchanges

Tasks share one list of outcomes, which they are given in the order of their requests, one logger
and one clock. Every task runs until it waits. When all of them wait, the clock goes straight to
the first moment that one of them waits for, and all are asked again, in their order.
-/
namespace Gatehouse

/-- A request with the millisecond it was sent. -/
structure Sent where
  request : Request
  moment : Nat

/-- What tasks share. -/
structure Scene (World : Type) where
  now : Nat
  script : List Outcome
  sent : List Sent
  log : World

namespace Scene

variable {World : Type}

/-- What every request gets once the script is used up. -/
def exhausted : Outcome := .error (.network "scripted transport exhausted" none)

/-- Takes note of a request and hands out the next outcome. -/
def answer (scene : Scene World) (request : Request) : Outcome × Scene World :=
  let sent := scene.sent ++ [⟨request, scene.now⟩]
  match scene.script with
  | [] => (exhausted, { scene with sent := sent })
  | outcome :: rest => (outcome, { scene with sent := sent, script := rest })

def time (scene : Scene World) : Timestamp :=
  ⟨scene.now / 1000, scene.now % 1000 * 1000000⟩

def hear {Failure : Type} (logger : Logger World Failure) (remark : Remark)
    (scene : Scene World) : Scene World :=
  { scene with
    log := (logger.withContext remark.label).log remark.requestId scene.time remark.note scene.log }

end Scene

/-- Where a task stands: it is done, it waits for a moment, or it lets others go first. -/
inductive Standing (Result : Type)
  | done (result : Result)
  | waiting (moment : Nat) (rest : Exchange Result)
  | aside (rest : Exchange Result)

variable {World Failure Result : Type}

/-- Runs a task until it waits. A pause of no length is none. -/
def Exchange.run (logger : Logger World Failure) :
    Exchange Result → Scene World → Standing Result × Scene World
  | .finish result, scene => (.done result, scene)
  | .remark entry next, scene => next.run logger (scene.hear logger entry)
  | .clock next, scene => (next scene.now).run logger scene
  | .pause span next, scene =>
    if span.timerMillis = 0 then next.run logger scene
    else (.waiting (scene.now + span.timerMillis) next, scene)
  | .giveWay next, scene => (.aside next, scene)
  | .send request next, scene =>
    (next (scene.answer request).1).run logger (scene.answer request).2

/-- Runs a task if it can go on. -/
def Standing.poll (logger : Logger World Failure) (standing : Standing Result)
    (scene : Scene World) : Standing Result × Scene World :=
  match standing with
  | .done result => (.done result, scene)
  | .waiting moment rest =>
    if moment ≤ scene.now then rest.run logger scene else (.waiting moment rest, scene)
  | .aside rest => rest.run logger scene

/-- Asks every task in turn. -/
def pollAll (logger : Logger World Failure) :
    List (Standing Result) → Scene World → List (Standing Result) × Scene World
  | [], scene => ([], scene)
  | standing :: rest, scene =>
    let (standing, scene) := standing.poll logger scene
    let (rest, scene) := pollAll logger rest scene
    (standing :: rest, scene)

/-- The moment a task can go on. -/
def Standing.moment? (now : Nat) : Standing Result → Option Nat
  | .done _ => none
  | .waiting moment _ => some moment
  | .aside _ => some now

/-- The first moment that some task waits for. -/
def nextMoment? (now : Nat) (standings : List (Standing Result)) : Option Nat :=
  (standings.filterMap (·.moment? now)).min?

/-- Rounds of asking, until all tasks are done. -/
def rounds (logger : Logger World Failure) :
    Nat → List (Standing Result) → Scene World → List (Standing Result) × Scene World
  | 0, standings, scene => (standings, scene)
  | budget + 1, standings, scene =>
    let (standings, scene) := pollAll logger standings scene
    match nextMoment? scene.now standings with
    | none => (standings, scene)
    | some moment => rounds logger budget standings { scene with now := max scene.now moment }

/-- A task with the number of times that it waits at most. -/
structure BoundedTask (Result : Type) where
  exchange : Exchange Result
  waits : Nat

/-- Runs tasks together. Every round ends a wait, so their waits bound the rounds. -/
def runTogether (logger : Logger World Failure) (tasks : List (BoundedTask Result))
    (scene : Scene World) : List (Option Result) × Scene World :=
  let budget := tasks.foldr (fun task waits => task.waits + waits) 1
  let (standings, scene) := rounds logger budget (tasks.map fun task => .aside task.exchange) scene
  (standings.map fun standing =>
    match standing with
    | .done result => some result
    | .waiting .. => none
    | .aside _ => none, scene)

/-- Runs a task alone. -/
def runAlone (logger : Logger World Failure) (task : BoundedTask Result) (scene : Scene World) :
    Option Result × Scene World :=
  let (results, scene) := runTogether logger [task] scene
  (results.head?.join, scene)

/-- Runs tasks one after the other: what became of each, and the scene after it. -/
def runInTurn (logger : Logger World Failure) :
    List (BoundedTask Result) → Scene World → List (Option Result × Scene World)
  | [], _ => []
  | task :: rest, scene =>
    let run := runAlone logger task scene
    run :: runInTurn logger rest run.2

/-- The milliseconds between requests. -/
def gaps : List Sent → List Nat
  | first :: second :: rest => (second.moment - first.moment) :: gaps (second :: rest)
  | _ => []

end Gatehouse
