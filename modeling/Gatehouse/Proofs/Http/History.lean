import Gatehouse.Http.Schedule

/-!
# Histories

What a task does when it is alone and gets its outcomes from a stream: the deeds in their order,
and its result. The scheduler, asked to run one task on a script, does nothing but replay that
history on the scene, so what is proved of histories holds of what runs.
-/
namespace Gatehouse

inductive Deed
  | said (remark : Remark)
  | sent (request : Request)
  | paused (span : Span)
  | gaveWay

namespace Deed

def request? : Deed → Option Request
  | .sent request => some request
  | .said _ | .paused _ | .gaveWay => none

/-- Whether the scheduler needs another round after a deed. -/
def isWait : Deed → Bool
  | .paused span => span.timerMillis != 0
  | .gaveWay => true
  | .said _ | .sent _ => false

end Deed

/-- The requests among deeds, in their order. -/
def requestsOf (deeds : List Deed) : List Request := deeds.filterMap Deed.request?

@[simp] theorem requestsOf_said (remark : Remark) (deeds : List Deed) :
    requestsOf (.said remark :: deeds) = requestsOf deeds := rfl

@[simp] theorem requestsOf_sent (request : Request) (deeds : List Deed) :
    requestsOf (.sent request :: deeds) = request :: requestsOf deeds := rfl

@[simp] theorem requestsOf_paused (span : Span) (deeds : List Deed) :
    requestsOf (.paused span :: deeds) = requestsOf deeds := rfl

@[simp] theorem requestsOf_gaveWay (deeds : List Deed) :
    requestsOf (.gaveWay :: deeds) = requestsOf deeds := rfl

theorem requestsOf_append (xs ys : List Deed) :
    requestsOf (xs ++ ys) = requestsOf xs ++ requestsOf ys :=
  List.filterMap_append

theorem sent_of_mem_requestsOf {deeds : List Deed} {request : Request}
    (member : request ∈ requestsOf deeds) : .sent request ∈ deeds := by
  obtain ⟨deed, inside, same⟩ := List.mem_filterMap.mp member
  cases deed with
  | sent other =>
    obtain rfl := Option.some.inj same
    exact inside
  | said remark => cases same
  | paused span => cases same
  | gaveWay => cases same

/-- The number of rounds that a scheduler needs for deeds, the last one left out. -/
def waitsOf (deeds : List Deed) : Nat := deeds.countP Deed.isWait

theorem waitsOf_cons (deed : Deed) (deeds : List Deed) :
    waitsOf (deed :: deeds) = waitsOf deeds + if deed.isWait then 1 else 0 :=
  List.countP_cons

theorem waitsOf_append (xs ys : List Deed) : waitsOf (xs ++ ys) = waitsOf xs + waitsOf ys :=
  List.countP_append

/-- The deeds of a task that starts at a moment, and its result. -/
def Exchange.history {Result : Type} :
    Exchange Result → (Nat → Outcome) → Nat → List Deed × Result
  | .finish result, _, _ => ([], result)
  | .remark entry next, outcomes, now =>
    let told := next.history outcomes now
    (.said entry :: told.1, told.2)
  | .clock next, outcomes, now => (next now).history outcomes now
  | .pause span next, outcomes, now =>
    let told := next.history outcomes (now + span.timerMillis)
    (.paused span :: told.1, told.2)
  | .giveWay next, outcomes, now =>
    let told := next.history outcomes now
    (.gaveWay :: told.1, told.2)
  | .send request next, outcomes, now =>
    let told := (next (outcomes 0)).history (fun i => outcomes (i + 1)) now
    (.sent request :: told.1, told.2)

variable {World Failure Result : Type}

-- Stated apart, and not by unfolding: a comparison of moments by computation opens the timer's
-- division, which does not end in reasonable time.
theorem Exchange.history_pause (span : Span) (next : Exchange Result) (outcomes : Nat → Outcome)
    (now : Nat) :
    (Exchange.pause span next).history outcomes now
      = (.paused span :: (next.history outcomes (now + span.timerMillis)).1,
          (next.history outcomes (now + span.timerMillis)).2) := by
  rw [history]

/-- The history of a task that goes on with another. -/
theorem Exchange.history_bind {α β : Type} (task : Exchange α) (next : α → Exchange β)
    (outcomes : Nat → Outcome) (now : Nat) :
    ∃ later moment, (task.bind next).history outcomes now
      = ((task.history outcomes now).1
            ++ ((next (task.history outcomes now).2).history later moment).1,
          ((next (task.history outcomes now).2).history later moment).2) := by
  induction task generalizing outcomes now with
  | finish result => exact ⟨outcomes, now, rfl⟩
  | remark entry rest ih =>
    obtain ⟨later, moment, same⟩ := ih outcomes now
    refine ⟨later, moment, ?_⟩
    rw [bind, history, history, same]
    rfl
  | clock rest ih => exact ih now outcomes now
  | pause span rest ih =>
    obtain ⟨later, moment, same⟩ := ih outcomes (now + span.timerMillis)
    refine ⟨later, moment, ?_⟩
    rw [bind, history_pause, history_pause, same]
    rfl
  | giveWay rest ih =>
    obtain ⟨later, moment, same⟩ := ih outcomes now
    refine ⟨later, moment, ?_⟩
    rw [bind, history, history, same]
    rfl
  | send request rest ih =>
    obtain ⟨later, moment, same⟩ := ih (outcomes 0) (fun i => outcomes (i + 1)) now
    refine ⟨later, moment, ?_⟩
    rw [bind, history, history, same]
    rfl

/-- The outcomes that a scene still gives: those of its script, then failures for ever. -/
def Scene.outcomes (scene : Scene World) (i : Nat) : Outcome :=
  scene.script.getD i Scene.exhausted

namespace Scene

/-- The scene once a timer for a span is over. -/
def after (scene : Scene World) (span : Span) : Scene World :=
  { scene with now := scene.now + span.timerMillis }

theorem after_now (scene : Scene World) (span : Span) :
    (scene.after span).now = scene.now + span.timerMillis := by
  cases scene; rfl

@[simp] theorem after_sent (scene : Scene World) (span : Span) :
    (scene.after span).sent = scene.sent := by
  cases scene; rfl

@[simp] theorem after_script (scene : Scene World) (span : Span) :
    (scene.after span).script = scene.script := by
  cases scene; rfl

@[simp] theorem after_log (scene : Scene World) (span : Span) :
    (scene.after span).log = scene.log := by
  cases scene; rfl

@[simp] theorem after_outcomes (scene : Scene World) (span : Span) :
    (scene.after span).outcomes = scene.outcomes := by
  funext i
  rw [outcomes, outcomes, after_script]

theorem after_of_zero (scene : Scene World) (span : Span) (none : span.timerMillis = 0) :
    scene.after span = scene := by
  cases scene
  rw [after, none, Nat.add_zero]

theorem answer_fst (scene : Scene World) (request : Request) :
    (scene.answer request).1 = scene.outcomes 0 := by
  cases script : scene.script <;> simp [answer, outcomes, script]

@[simp] theorem answer_now (scene : Scene World) (request : Request) :
    (scene.answer request).2.now = scene.now := by
  cases script : scene.script <;> simp [answer, script]

theorem answer_outcomes (scene : Scene World) (request : Request) :
    (scene.answer request).2.outcomes = fun i => scene.outcomes (i + 1) := by
  funext i
  cases script : scene.script <;> simp [answer, outcomes, script]

theorem answer_sent (scene : Scene World) (request : Request) :
    (scene.answer request).2.sent = scene.sent ++ [⟨request, scene.now⟩] := by
  cases script : scene.script <;> simp [answer, script]

theorem answer_script (scene : Scene World) (request : Request) :
    (scene.answer request).2.script = scene.script.drop 1 := by
  cases script : scene.script <;> simp [answer, script]

theorem answer_log (scene : Scene World) (request : Request) :
    (scene.answer request).2.log = scene.log := by
  cases script : scene.script <;> simp [answer, script]

/-- The record that a remark leaves at a moment, under its label and its request id. -/
def recordOf (remark : Remark) (scene : Scene World) : Record :=
  Logger.recordOf (some remark.label) remark.requestId scene.time remark.note

theorem hear_of_enabled {logger : Logger World Failure} {remark : Remark}
    (counts : logger.isEnabled remark.note.level = true) (scene : Scene World) :
    scene.hear logger remark
      = { scene with log := Logger.offer logger.sinks (scene.recordOf remark) scene.log } := by
  have labelled : (logger.withContext remark.label).isEnabled remark.note.level = true := counts
  simp only [hear, Logger.log, labelled, if_true]
  rfl

theorem hear_of_disabled {logger : Logger World Failure} {remark : Remark}
    (ignored : logger.isEnabled remark.note.level = false) (scene : Scene World) :
    scene.hear logger remark = scene := by
  have labelled : (logger.withContext remark.label).isEnabled remark.note.level = false := ignored
  simp only [hear, Logger.log, labelled, Bool.false_eq_true, if_false]

end Scene

/-- What a deed does to the scene. -/
def Deed.act (logger : Logger World Failure) (scene : Scene World) : Deed → Scene World
  | .said remark => scene.hear logger remark
  | .sent request => (scene.answer request).2
  | .paused span => scene.after span
  | .gaveWay => scene

def replay (logger : Logger World Failure) : List Deed → Scene World → Scene World
  | [], scene => scene
  | deed :: rest, scene => replay logger rest (deed.act logger scene)

theorem replay_append (logger : Logger World Failure) (early late : List Deed)
    (scene : Scene World) :
    replay logger (early ++ late) scene = replay logger late (replay logger early scene) := by
  induction early generalizing scene with
  | nil => rfl
  | cons deed rest ih => exact ih (deed.act logger scene)

/-! ## The scheduler replays the history -/

/-- What follows a poll of a single task: the end, or the next round at its moment. -/
private def afterPoll (logger : Logger World Failure) (budget : Nat)
    (polled : Standing Result × Scene World) : List (Standing Result) × Scene World :=
  match nextMoment? polled.2.now [polled.1] with
  | none => ([polled.1], polled.2)
  | some moment => rounds logger budget [polled.1] { polled.2 with now := max polled.2.now moment }

private theorem rounds_aside (logger : Logger World Failure) (budget : Nat)
    (rest : Exchange Result) (scene : Scene World) :
    rounds logger (budget + 1) [.aside rest] scene
      = afterPoll logger budget (rest.run logger scene) := rfl

private theorem rounds_waiting (logger : Logger World Failure) (budget moment : Nat)
    (rest : Exchange Result) (scene : Scene World) (due : moment ≤ scene.now) :
    rounds logger (budget + 1) [.waiting moment rest] scene
      = afterPoll logger budget (rest.run logger scene) := by
  simp only [rounds, pollAll, Standing.poll, if_pos due]
  rfl

/-- Enough rounds take a task from its start to its result, through the deeds of its history. -/
private theorem afterPoll_run (logger : Logger World Failure) (task : Exchange Result)
    (scene : Scene World) (budget : Nat)
    (enough : waitsOf (task.history scene.outcomes scene.now).1 ≤ budget) :
    afterPoll logger budget (task.run logger scene)
      = ([.done (task.history scene.outcomes scene.now).2],
          replay logger (task.history scene.outcomes scene.now).1 scene) := by
  -- On the task: a deed that waits ends the poll and takes a round of the budget, others do not.
  induction task generalizing scene budget with
  | finish result => rfl
  | remark entry next ih => exact ih (scene.hear logger entry) budget enough
  | clock next ih => exact ih scene.now scene budget enough
  | pause span next ih =>
    have step := ih (scene.after span)
    rw [Scene.after_outcomes, Scene.after_now] at step
    rw [Exchange.history_pause] at enough ⊢
    by_cases none : span.timerMillis = 0
    · -- A timer of no length is over at once.
      rw [Scene.after_of_zero scene span none] at step
      rw [Exchange.run, if_pos none, replay, Deed.act, Scene.after_of_zero scene span none]
      apply step budget
      simpa [waitsOf_cons, Deed.isWait, none] using enough
    · simp only [waitsOf_cons, Deed.isWait, bne_iff_ne, ne_eq, none, not_false_eq_true,
        if_true] at enough
      obtain ⟨less, rfl⟩ : ∃ less, budget = less + 1 := ⟨budget - 1, by omega⟩
      have later : max scene.now (scene.now + span.timerMillis) = scene.now + span.timerMillis :=
        Nat.max_eq_right (Nat.le_add_right _ _)
      rw [Exchange.run, if_neg none, afterPoll, replay, Deed.act]
      simp only [nextMoment?, Standing.moment?, List.filterMap_cons, List.filterMap_nil,
        List.min?_singleton, later]
      have due := Nat.le_of_eq (Scene.after_now scene span).symm
      rw [← Scene.after, rounds_waiting logger less _ next (scene.after span) due]
      exact step less (Nat.le_of_succ_le_succ enough)
  | giveWay next ih =>
    simp only [Exchange.history, waitsOf_cons, Deed.isWait, if_true] at enough
    obtain ⟨less, rfl⟩ : ∃ less, budget = less + 1 := ⟨budget - 1, by omega⟩
    simp only [Exchange.run, afterPoll, nextMoment?, Standing.moment?, List.filterMap_cons,
      List.filterMap_nil, List.min?_singleton, Nat.max_self]
    rw [rounds_aside]
    exact ih scene less (Nat.le_of_succ_le_succ enough)
  | send request next ih =>
    have step := ih (scene.answer request).1 (scene.answer request).2 budget
    simp only [Scene.answer_fst, Scene.answer_outcomes, Scene.answer_now] at step
    simp only [Exchange.run, Scene.answer_fst]
    exact step enough

/-- A task that is run alone ends with the result of its history, and its deeds are all that
happens to the scene. -/
theorem runAlone_eq_replay (logger : Logger World Failure) (task : BoundedTask Result)
    (scene : Scene World)
    (enough : waitsOf (task.exchange.history scene.outcomes scene.now).1 ≤ task.waits) :
    runAlone logger task scene
      = (some (task.exchange.history scene.outcomes scene.now).2,
          replay logger (task.exchange.history scene.outcomes scene.now).1 scene) := by
  have run := afterPoll_run logger task.exchange scene task.waits enough
  rw [← rounds_aside] at run
  simp [runAlone, runTogether, run]

/-- A history asks for no more outcomes than it sends requests. -/
theorem Exchange.history_congr (task : Exchange Result) (outcomes others : Nat → Outcome)
    (now : Nat)
    (agree : ∀ i < (requestsOf (task.history outcomes now).1).length, outcomes i = others i) :
    task.history others now = task.history outcomes now := by
  induction task generalizing outcomes others now with
  | finish result => rfl
  | remark entry next ih =>
    simp only [history, requestsOf_said] at agree ⊢
    rw [ih outcomes others now agree]
  | clock next ih => exact ih now outcomes others now agree
  | pause span next ih =>
    rw [history_pause] at agree ⊢
    rw [history_pause, ih outcomes others _ agree]
  | giveWay next ih =>
    simp only [history, requestsOf_gaveWay] at agree ⊢
    rw [ih outcomes others now agree]
  | send request next ih =>
    simp only [history, requestsOf_sent, List.length_cons] at agree
    have first : outcomes 0 = others 0 := agree 0 (Nat.zero_lt_succ _)
    simp only [history, ← first]
    rw [ih (outcomes 0) (fun i => outcomes (i + 1)) (fun i => others (i + 1)) now
      fun i inside => agree (i + 1) (Nat.succ_lt_succ inside)]

/-- What is proved of a history on a stream holds of a run whose script starts as the stream. -/
theorem runAlone_of_script (logger : Logger World Failure) (task : Exchange Result) (waits : Nat)
    (outcomes : Nat → Outcome) (scene : Scene World)
    (delivered : ∀ i < (requestsOf (task.history outcomes scene.now).1).length,
      scene.script[i]? = some (outcomes i))
    (enough : waitsOf (task.history outcomes scene.now).1 ≤ waits) :
    runAlone logger ⟨task, waits⟩ scene
      = (some (task.history outcomes scene.now).2,
          replay logger (task.history outcomes scene.now).1 scene) := by
  have same : task.history scene.outcomes scene.now = task.history outcomes scene.now := by
    apply Exchange.history_congr
    intro i inside
    simp only [Scene.outcomes, List.getD, delivered i inside, Option.getD_some]
  have run := runAlone_eq_replay logger ⟨task, waits⟩ scene (by rw [same]; exact enough)
  rw [same] at run
  exact run

/-! ## What a replay leaves -/

theorem replay_requests (logger : Logger World Failure) (deeds : List Deed)
    (scene : Scene World) :
    (replay logger deeds scene).sent.map Sent.request
      = scene.sent.map Sent.request ++ requestsOf deeds := by
  induction deeds generalizing scene with
  | nil => simp [replay, requestsOf]
  | cons deed rest ih =>
    rw [replay, ih]
    cases deed with
    | said remark => simp [Deed.act, Scene.hear]
    | sent request => simp [Deed.act, Scene.answer_sent]
    | paused span => simp [Deed.act]
    | gaveWay => simp [Deed.act]

theorem replay_script (logger : Logger World Failure) (deeds : List Deed)
    (scene : Scene World) :
    (replay logger deeds scene).script = scene.script.drop (requestsOf deeds).length := by
  induction deeds generalizing scene with
  | nil => rfl
  | cons deed rest ih =>
    rw [replay, ih]
    cases deed with
    | said remark => simp [Deed.act, Scene.hear]
    | sent request => simp [Deed.act, Scene.answer_script]
    | paused span => simp [Deed.act]
    | gaveWay => simp [Deed.act]

end Gatehouse
