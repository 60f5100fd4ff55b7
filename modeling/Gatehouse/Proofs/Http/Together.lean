import Gatehouse.Proofs.Http.Interleaving
import Mathlib.Data.List.Forall2

/-!
# The scheduler among the interleavings

The scheduler that runs tasks together takes turns like any other: a poll is a row of steps of one
task, a round is a row of polls, and between rounds time goes by.
-/
namespace Gatehouse

variable {World Failure Result : Type}

namespace Interleaving

theorem takeTurns_append (logger : Logger World Failure) (state : State World Result)
    (early late : List Turn) :
    state.takeTurns logger (early ++ late)
      = (state.takeTurns logger early).takeTurns logger late :=
  List.foldl_append

/-! ## A poll -/

/-- Turns that take the task in a seat as far as a poll takes it. -/
def Polls (logger : Logger World Failure) (state : State World Result) (number : Nat)
    (task : ScopedTask Result) (polled : Standing Result × Scene World) : Prop :=
  ∃ turns trace, state.takeTurns logger turns
    = ⟨none, state.seats.set number ⟨task, some polled.1⟩, polled.2, trace⟩

/-- A step in which a poll ends. -/
theorem Polls.last {logger : Logger World Failure} {state : State World Result} {number : Nat}
    {seat : Seat Result} {move : Move World Result} (free : state.slot = none)
    (step : state.takeTurn logger (.task number) = state.after number seat move) :
    Polls logger state number seat.task (move.standing, move.scene) := by
  refine ⟨[.task number], (state.after number seat move).trace, ?_⟩
  rw [State.takeTurns, List.foldl_cons, List.foldl_nil, step, State.after, free]

/-- A step after which a poll goes on. -/
theorem Polls.cons {logger : Logger World Failure} {state : State World Result} {number : Nat}
    {seat : Seat Result} {move : Move World Result} {polled : Standing Result × Scene World}
    (step : state.takeTurn logger (.task number) = state.after number seat move)
    (later : Polls logger (state.after number seat move) number seat.task polled) :
    Polls logger state number seat.task polled := by
  obtain ⟨turns, trace, run⟩ := later
  refine ⟨.task number :: turns, trace, ?_⟩
  rw [State.takeTurns, List.foldl_cons, step]
  refine run.trans ?_
  rw [State.after, List.set_set]

theorem after_held {state : State World Result} {number : Nat} {seat : Seat Result}
    (held : state.seats[number]? = some seat) (move : Move World Result) :
    (state.after number seat move).seats[number]? = some ⟨seat.task, some move.standing⟩ :=
  List.getElem?_set_self (List.getElem?_eq_some_iff.mp held).1

theorem run_polls (logger : Logger World Failure) (next : Exchange Result)
    {state : State World Result} {number : Nat} {task : ScopedTask Result}
    {standing : Option (Standing Result)} (free : state.slot = none)
    (held : state.seats[number]? = some ⟨task, standing⟩)
    (goes : (Seat.mk task standing).next? task.scope state.scene.now = some next)
    (speaks : next.OnlyDoes (IsUnder task.scope)) :
    Polls logger state number task (next.run logger state.scene) := by
  -- On the task: each step leaves a seat that can go on, until the poll ends.
  induction next generalizing state standing with
  | finish result => exact .last free (takeTurn_of_next? logger free held goes)
  | remark entry next ih =>
    obtain ⟨label, requestId, note⟩ := entry
    obtain ⟨rfl, speaks⟩ := speaks
    refine .cons (takeTurn_of_next? logger free held goes) ?_
    exact ih free (after_held held _) rfl speaks
  | clock next ih =>
    refine .cons (takeTurn_of_next? logger free held goes) ?_
    exact ih _ free (after_held held _) rfl (speaks _)
  | pause span next ih =>
    by_cases none : span.timerMillis = 0
    · -- A timer of no length is over at once.
      rw [Exchange.run, if_pos none]
      refine .cons (takeTurn_of_next? logger free held goes) ?_
      refine ih free (after_held held _) ?_ speaks.2
      rw [moveOf, none]
      exact if_pos (Nat.le_refl _)
    · rw [Exchange.run, if_neg none]
      exact .last free (takeTurn_of_next? logger free held goes)
  | giveWay next ih => exact .last free (takeTurn_of_next? logger free held goes)
  | send request next ih =>
    refine .cons (takeTurn_of_next? logger free held goes) ?_
    exact ih _ free (after_held held _) rfl (speaks.2 _)

/-! ## Rounds of polls -/

/-- A seat and a place in the scheduler hold one task at the same point. -/
inductive Matches : Seat Result → Standing Result → Prop
  | fresh (task : ScopedTask Result) : Matches ⟨task, none⟩ (.aside task.exchange)
  | started (task : ScopedTask Result) (standing : Standing Result) :
      Matches ⟨task, some standing⟩ standing

/-- Turns that take the task behind some seats as far as a poll takes it. -/
def Catches (logger : Logger World Failure) (state : State World Result)
    (before after : List (Seat Result)) (polled : Standing Result × Scene World) : Prop :=
  ∃ turns seat, (state.takeTurns logger turns).seats = before ++ seat :: after
    ∧ Matches seat polled.1 ∧ (state.takeTurns logger turns).scene = polled.2

theorem Polls.catches {logger : Logger World Failure} {state : State World Result}
    {before after : List (Seat Result)} {seat : Seat Result}
    {polled : Standing Result × Scene World} (seats : state.seats = before ++ seat :: after)
    (polls : Polls logger state before.length seat.task polled) :
    Catches logger state before after polled := by
  obtain ⟨turns, trace, run⟩ := polls
  refine ⟨turns, ⟨seat.task, some polled.1⟩, ?_, .started seat.task polled.1, ?_⟩
  · rw [run, seats, List.set_append_right _ _ (Nat.le_refl _), Nat.sub_self, List.set_cons_zero]
  · rw [run]

theorem poll_catches (logger : Logger World Failure) {state : State World Result}
    {before after : List (Seat Result)} {seat : Seat Result} {standing : Standing Result}
    (free : state.slot = none) (seats : state.seats = before ++ seat :: after)
    (same : Matches seat standing) (speaks : seat.rest.OnlyDoes (IsUnder seat.task.scope)) :
    Catches logger state before after (standing.poll logger state.scene) := by
  have held : state.seats[before.length]? = some seat := by
    rw [seats, List.getElem?_append_right (Nat.le_refl _), Nat.sub_self, List.getElem?_cons_zero]
  have runs : ∀ rest, seat.next? seat.task.scope state.scene.now = some rest →
      Catches logger state before after (rest.run logger state.scene) := fun rest goes =>
    (run_polls logger rest free held goes (Seat.rest_of_next? goes ▸ speaks)).catches seats
  cases same with
  | fresh task => exact runs _ rfl
  | started task standing =>
    cases standing with
    -- A task that is done, or whose moment has not come, takes no turn.
    | done result => exact ⟨[], _, seats, .started task (.done result), rfl⟩
    | aside rest => exact runs rest rfl
    | waiting moment rest =>
      rw [Standing.poll]
      by_cases due : moment ≤ state.scene.now
      · rw [if_pos due]
        exact runs rest (if_pos due)
      · rw [if_neg due]
        exact ⟨[], _, seats, .started task (.waiting moment rest), rfl⟩

/-- Turns that take all tasks behind some seats as far as asking them in turn does. -/
theorem pollAll_turns {logger : Logger World Failure} {tasks : List (ScopedTask Result)}
    {start : Scene World} {seats : List (Seat Result)} {standings : List (Standing Result)}
    (same : List.Forall₂ Matches seats standings) {state : State World Result}
    (kept : Kept logger tasks start state) (before : List (Seat Result))
    (seated : state.seats = before ++ seats) :
    ∃ turns after, (state.takeTurns logger turns).seats = before ++ after
      ∧ List.Forall₂ Matches after (pollAll logger standings state.scene).1
      ∧ (state.takeTurns logger turns).scene = (pollAll logger standings state.scene).2 := by
  -- On the seats: those that were asked already stand in front of the others.
  induction same generalizing state before with
  | nil => exact ⟨[], [], seated, .nil, rfl⟩
  | @cons seat standing seats standings first rest ih =>
    have held : state.seats[before.length]? = some seat := by
      rw [seated, List.getElem?_append_right (Nat.le_refl _), Nat.sub_self,
        List.getElem?_cons_zero]
    have speaks := (kept.reaches before.length seat held).speaks
    obtain ⟨early, next, places, matching, scene⟩ :=
      poll_catches logger kept.slot seated first speaks
    obtain ⟨late, after, placesThen, matchingAll, sceneThen⟩ := ih (kept.takeTurns early)
      (before ++ [next]) (by rw [places, List.append_assoc, List.singleton_append])
    refine ⟨early ++ late, next :: after, ?_, ?_, ?_⟩
    · rw [takeTurns_append, placesThen, List.append_assoc, List.singleton_append]
    · rw [scene] at matchingAll
      exact .cons matching matchingAll
    · rw [takeTurns_append, sceneThen, scene]
      rfl

/-- Turns that take all tasks as far as rounds do. -/
theorem rounds_turns {logger : Logger World Failure} {tasks : List (ScopedTask Result)}
    {start : Scene World} (budget : Nat) {standings : List (Standing Result)}
    {state : State World Result} (kept : Kept logger tasks start state)
    (same : List.Forall₂ Matches state.seats standings) :
    ∃ turns, List.Forall₂ Matches (state.takeTurns logger turns).seats
        (rounds logger budget standings state.scene).1
      ∧ (state.takeTurns logger turns).scene
        = (rounds logger budget standings state.scene).2 := by
  induction budget generalizing standings state with
  | zero => exact ⟨[], same, rfl⟩
  | succ budget ih =>
    obtain ⟨turns, after, seats, matching, scene⟩ :=
      pollAll_turns same kept [] (List.nil_append _).symm
    rw [List.nil_append] at seats
    rw [rounds]
    generalize pollAll logger standings state.scene = polled at matching scene
    obtain ⟨standings, later⟩ := polled
    simp only at matching scene ⊢
    cases first : nextMoment? later.now standings with
    | none => exact ⟨turns, seats ▸ matching, scene⟩
    | some moment =>
      -- Between rounds the clock goes to the first moment that is waited for.
      let waited := (state.takeTurns logger turns).takeTurn logger (.elapse (moment - later.now))
      have later_now : later.now + (moment - later.now) = max later.now moment := by omega
      have scenes : waited.scene = { later with now := max later.now moment } := by
        subst scene
        exact congrArg (fun now => { (state.takeTurns logger turns).scene with now := now })
          later_now
      have matchingThen : List.Forall₂ Matches waited.seats standings := seats ▸ matching
      obtain ⟨further, done, last⟩ := ih ((kept.takeTurns turns).takeTurn _) matchingThen
      refine ⟨turns ++ .elapse (moment - later.now) :: further, ?_, ?_⟩
      · rw [scenes] at done
        rw [takeTurns_append]
        exact done
      · rw [scenes] at last
        rw [takeTurns_append]
        exact last

theorem results_of_matches {seats : List (Seat Result)} {standings : List (Standing Result)}
    (same : List.Forall₂ Matches seats standings) :
    seats.map Seat.result? = standings.map fun standing =>
      match standing with
      | .done result => some result
      | .waiting .. => none
      | .aside _ => none := by
  induction same with
  | nil => rfl
  | @cons seat standing seats standings first rest ih =>
    rw [List.map_cons, List.map_cons, ih]
    congr 1
    cases first with
    | fresh task => rfl
    | started task => cases standing <;> rfl

/-- The scheduler takes turns: what running tasks together leaves is left by an interleaving. -/
theorem runTogether_turns (logger : Logger World Failure) {tasks : List (ScopedTask Result)}
    (lexical : ∀ task ∈ tasks, task.IsLexical) (bounded : List (BoundedTask Result))
    (same : bounded.map (·.exchange) = tasks.map ScopedTask.exchange) (scene : Scene World) :
    ∃ turns,
      let state := (State.start tasks scene).takeTurns logger turns
      runTogether logger bounded scene = (state.results, state.scene) := by
  have begin : List.Forall₂ Matches (State.start tasks scene).seats
      (bounded.map fun task => Standing.aside task.exchange) := by
    have places : (bounded.map fun task => Standing.aside task.exchange)
        = tasks.map fun task => Standing.aside task.exchange := by
      simpa [Function.comp_def] using congrArg (List.map Standing.aside) same
    rw [places]
    simp only [State.start, List.forall₂_map_left_iff, List.forall₂_map_right_iff,
      List.forall₂_same]
    exact fun task _ => .fresh task
  obtain ⟨turns, matching, last⟩ := rounds_turns
    (bounded.foldr (fun task waits => task.waits + waits) 1) (kept_start logger lexical scene) begin
  refine ⟨turns, ?_⟩
  simp only [State.results, results_of_matches matching, last]
  rfl

end Interleaving

end Gatehouse
