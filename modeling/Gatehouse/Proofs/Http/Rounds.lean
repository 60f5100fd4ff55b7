import Gatehouse.Http.Client
import Gatehouse.Proofs.Http.History
import Mathlib.Algebra.GroupWithZero.Nat
import Mathlib.Data.List.Forall2

/-!
# Rounds end

The scheduler's budget is the sum of the waits of its tasks. Each round takes a wait of every task
that is due, and between rounds the clock goes to a moment at which some task is due, so the budget
outlasts the tasks.
-/
namespace Gatehouse

variable {World Failure Result : Type}

namespace Exchange

/-- Whatever outcomes a task is given, it waits a number of times at most. -/
def WaitsAtMost : Nat → Exchange Result → Prop
  | _, .finish _ => True
  | most, .remark _ next => next.WaitsAtMost most
  | most, .clock next => ∀ moment, (next moment).WaitsAtMost most
  | 0, .pause _ _ => False
  | most + 1, .pause _ next => next.WaitsAtMost most
  | 0, .giveWay _ => False
  | most + 1, .giveWay next => next.WaitsAtMost most
  | most, .send _ next => ∀ outcome, (next outcome).WaitsAtMost most

theorem WaitsAtMost.history {task : Exchange Result} {most : Nat} (few : task.WaitsAtMost most)
    (outcomes : Nat → Outcome) (now : Nat) : waitsOf (task.history outcomes now).1 ≤ most := by
  induction task generalizing most outcomes now with
  | finish result => exact Nat.zero_le most
  | remark entry next ih => exact ih few outcomes now
  | clock next ih => exact ih now (few now) outcomes now
  | pause span next ih =>
    cases most with
    | zero => exact absurd few id
    | succ most =>
      -- A timer of no length is no wait, so the bound may have one to spare.
      have rest := ih few outcomes (now + span.timerMillis)
      rw [history_pause, waitsOf_cons]
      split <;> omega
  | giveWay next ih =>
    cases most with
    | zero => exact absurd few id
    | succ most =>
      rw [Exchange.history, waitsOf_cons]
      exact Nat.succ_le_succ (ih few outcomes now)
  | send request next ih => exact ih _ (few _) _ now

end Exchange

namespace Standing

/-- A task that waits goes on with one wait less. -/
def WaitsAtMost : Nat → Standing Result → Prop
  | _, .done _ => True
  | 0, .waiting .. => False
  | most + 1, .waiting _ rest => rest.WaitsAtMost most
  | 0, .aside _ => False
  | most + 1, .aside rest => rest.WaitsAtMost most

def isDone : Standing Result → Bool
  | .done _ => true
  | .waiting .. => false
  | .aside _ => false

def isDue (now : Nat) : Standing Result → Bool
  | .done _ => false
  | .waiting moment _ => decide (moment ≤ now)
  | .aside _ => true

theorem isDone_of_zero {standing : Standing Result} (none : standing.WaitsAtMost 0) :
    standing.isDone = true := by
  cases standing with
  | done result => rfl
  | waiting moment rest => exact absurd none id
  | aside rest => exact absurd none id

end Standing

theorem Exchange.run_now (logger : Logger World Failure) (task : Exchange Result)
    (scene : Scene World) : (task.run logger scene).2.now = scene.now := by
  induction task generalizing scene with
  | finish result => rfl
  | remark entry next ih => exact ih (scene.hear logger entry)
  | clock next ih => exact ih scene.now scene
  | pause span next ih =>
    rw [run]
    split
    · exact ih scene
    · rfl
  | giveWay next => rfl
  | send request next ih =>
    exact (ih _ (scene.answer request).2).trans (Scene.answer_now scene request)

/-- What a task still has before it when it waits has no more waits than the task had. -/
theorem Exchange.run_waitsAtMost (logger : Logger World Failure) {task : Exchange Result}
    {most : Nat} (few : task.WaitsAtMost most) (scene : Scene World) :
    ∃ less ≤ most, (task.run logger scene).1.WaitsAtMost less := by
  induction task generalizing most scene with
  | finish result => exact ⟨most, Nat.le_refl most, trivial⟩
  | remark entry next ih => exact ih few (scene.hear logger entry)
  | clock next ih => exact ih scene.now (few scene.now) scene
  | pause span next ih =>
    cases most with
    | zero => exact absurd few id
    | succ most =>
      rw [run]
      split
      · obtain ⟨less, bound, kept⟩ := ih few scene
        exact ⟨less, Nat.le_succ_of_le bound, kept⟩
      · exact ⟨most + 1, Nat.le_refl _, few⟩
  | giveWay next =>
    cases most with
    | zero => exact absurd few id
    | succ most => exact ⟨most + 1, Nat.le_refl _, few⟩
  | send request next ih => exact ih _ (few _) (scene.answer request).2

/-- A poll of a task that is due takes one of its waits. -/
theorem Standing.poll_waitsAtMost (logger : Logger World Failure) {standing : Standing Result}
    {most : Nat} (few : standing.WaitsAtMost most) (scene : Scene World) :
    (standing.poll logger scene).2.now = scene.now
      ∧ ∃ less, (standing.poll logger scene).1.WaitsAtMost less
        ∧ less + (if standing.isDue scene.now then 1 else 0) ≤ most := by
  cases standing with
  | done result => exact ⟨rfl, most, trivial, Nat.le_refl most⟩
  | waiting moment rest =>
    cases most with
    | zero => exact absurd few id
    | succ most =>
      by_cases due : moment ≤ scene.now
      · obtain ⟨less, bound, kept⟩ := Exchange.run_waitsAtMost logger few scene
        rw [poll, if_pos due]
        refine ⟨rest.run_now logger scene, less, kept, ?_⟩
        rw [isDue, decide_eq_true due, if_pos rfl]
        exact Nat.succ_le_succ bound
      · rw [poll, if_neg due]
        refine ⟨rfl, most + 1, few, ?_⟩
        apply Nat.le_of_eq
        rw [isDue, decide_eq_false due, if_neg Bool.false_ne_true]
  | aside rest =>
    cases most with
    | zero => exact absurd few id
    | succ most =>
      obtain ⟨less, bound, kept⟩ := Exchange.run_waitsAtMost logger few scene
      exact ⟨rest.run_now logger scene, less, kept, Nat.succ_le_succ bound⟩

theorem pollAll_waitsAtMost (logger : Logger World Failure) {standings : List (Standing Result)}
    {mosts : List Nat}
    (few : List.Forall₂ (fun most standing => Standing.WaitsAtMost most standing) mosts standings)
    (scene : Scene World) :
    (pollAll logger standings scene).2.now = scene.now
      ∧ ∃ lesses : List Nat,
          List.Forall₂ (fun most standing => Standing.WaitsAtMost most standing) lesses
            (pollAll logger standings scene).1
          ∧ lesses.sum + standings.countP (Standing.isDue scene.now) ≤ mosts.sum := by
  induction few generalizing scene with
  | nil => exact ⟨rfl, [], .nil, Nat.le_refl 0⟩
  | @cons most standing mosts standings first rest ih =>
    obtain ⟨now, less, kept, bound⟩ := Standing.poll_waitsAtMost logger first scene
    -- Polls take no time, so all of them find the same tasks due.
    obtain ⟨nowThen, lesses, keptAll, boundAll⟩ := ih (standing.poll logger scene).2
    rw [now] at boundAll nowThen
    refine ⟨nowThen, less :: lesses, .cons kept keptAll, ?_⟩
    rw [List.sum_cons, List.sum_cons, List.countP_cons]
    omega

theorem isDone_of_nextMoment? {now : Nat} {standings : List (Standing Result)}
    (none : nextMoment? now standings = none) : ∀ standing ∈ standings, standing.isDone = true := by
  rw [nextMoment?, List.min?_eq_none_iff, List.filterMap_eq_nil_iff] at none
  intro standing member
  have still := none standing member
  cases standing with
  | done result => rfl
  | waiting moment rest => cases still
  | aside rest => cases still

/-- At the first moment that is waited for, some task is due. -/
theorem isDue_of_nextMoment? {now moment : Nat} {standings : List (Standing Result)}
    (first : nextMoment? now standings = some moment) :
    0 < standings.countP (Standing.isDue (max now moment)) := by
  obtain ⟨standing, member, waits⟩ := List.mem_filterMap.mp (List.min?_mem first)
  refine List.countP_pos_iff.mpr ⟨standing, member, ?_⟩
  cases standing with
  | done result => cases waits
  | waiting awaited rest =>
    obtain rfl := Option.some.inj waits
    exact decide_eq_true (Nat.le_max_right _ _)
  | aside rest => rfl

theorem isDone_of_sum {standings : List (Standing Result)} {mosts : List Nat}
    (few : List.Forall₂ (fun most standing => Standing.WaitsAtMost most standing) mosts standings)
    (none : mosts.sum = 0) : ∀ standing ∈ standings, standing.isDone = true := by
  induction few with
  | nil => exact fun _ member => nomatch member
  | cons first rest ih =>
    rw [List.sum_cons, Nat.add_eq_zero_iff] at none
    obtain ⟨rfl, none⟩ := none
    exact List.forall_mem_cons.mpr ⟨Standing.isDone_of_zero first, ih none⟩

/-- Rounds end all tasks, as each round takes a wait of every task that is due. -/
theorem rounds_end (logger : Logger World Failure) (budget : Nat)
    {standings : List (Standing Result)} {mosts : List Nat}
    (few : List.Forall₂ (fun most standing => Standing.WaitsAtMost most standing) mosts standings)
    (scene : Scene World)
    (enough : mosts.sum ≤ budget + standings.countP (Standing.isDue scene.now)) :
    ∀ standing ∈ (rounds logger (budget + 1) standings scene).1, standing.isDone = true := by
  obtain ⟨now, lesses, kept, bound⟩ := pollAll_waitsAtMost logger few scene
  have left : lesses.sum ≤ budget := by omega
  rw [rounds]
  generalize pollAll logger standings scene = polled at kept
  obtain ⟨standings, later⟩ := polled
  simp only at kept ⊢
  cases first : nextMoment? later.now standings with
  | none => exact isDone_of_nextMoment? first
  | some moment =>
    -- The next round finds a task that is due, so it may begin with one wait more than it leaves.
    have due := isDue_of_nextMoment? first
    cases budget with
    | zero => exact isDone_of_sum kept (Nat.le_zero.mp left)
    | succ budget =>
      apply rounds_end logger budget kept
      show lesses.sum ≤ budget + standings.countP (Standing.isDue (max later.now moment))
      omega

private theorem budget_eq (tasks : List (BoundedTask Result)) :
    tasks.foldr (fun task waits => task.waits + waits) 1 = (tasks.map (·.waits)).sum + 1 := by
  induction tasks with
  | nil => rfl
  | cons task rest ih => rw [List.foldr_cons, ih, List.map_cons, List.sum_cons, Nat.add_assoc]

private theorem sum_of_starts (tasks : List (BoundedTask Result)) :
    (tasks.map fun task => task.waits + 1).sum = (tasks.map (·.waits)).sum + tasks.length := by
  induction tasks with
  | nil => rfl
  | cons task rest ih =>
    rw [List.map_cons, List.sum_cons, ih, List.map_cons, List.sum_cons, List.length_cons]
    omega

/-- Tasks that are run together all end, if each waits no more often than it was counted for. -/
theorem runTogether_ends (logger : Logger World Failure) (tasks : List (BoundedTask Result))
    (few : ∀ task ∈ tasks, task.exchange.WaitsAtMost task.waits) (scene : Scene World) :
    ∀ result ∈ (runTogether logger tasks scene).1, result.isSome = true := by
  have start : List.Forall₂ (fun most standing => Standing.WaitsAtMost most standing)
      (tasks.map fun task => task.waits + 1) (tasks.map fun task => .aside task.exchange) := by
    simp only [List.forall₂_map_left_iff, List.forall₂_map_right_iff, List.forall₂_same]
    exact few
  -- At the start all tasks are due, each with one wait more than it was counted for.
  have due : (tasks.map fun task => Standing.aside task.exchange).countP
      (Standing.isDue scene.now) = tasks.length := by
    rw [List.countP_map]
    exact List.countP_eq_length.mpr fun _ _ => rfl
  have enough := Nat.le_of_eq (sum_of_starts tasks)
  rw [← due] at enough
  have ended := rounds_end logger (tasks.map (·.waits)).sum start scene enough
  rw [← budget_eq] at ended
  intro result member
  obtain ⟨standing, inside, rfl⟩ := List.mem_map.mp member
  have done := ended standing inside
  cases standing with
  | done result => rfl
  | waiting moment rest => cases done
  | aside rest => cases done

namespace Call

variable {α : Type}

theorem announce_waitsAtMost {next : Exchange Result} {most : Nat} (few : next.WaitsAtMost most)
    (setup : Setup) (attempt : Nat) (outcome : Outcome) :
    (announce setup attempt outcome next).WaitsAtMost most := by
  unfold announce
  split
  · exact few
  · exact few

/-- Attempts wait before each retry. -/
theorem attemptFrom_waitsAtMost (setup : Setup) (decoder : Json.Decoder α) {spare most : Nat}
    (bound : spare ≤ most) (attempt : Nat) :
    (attemptFrom setup decoder spare attempt).WaitsAtMost most := by
  induction spare generalizing most attempt with
  | zero =>
    rw [attemptFrom]
    refine fun outcome => announce_waitsAtMost ?_ setup attempt outcome
    cases judge decoder outcome with
    | success response => trivial
    | failure failure cause => trivial
  | succ spare ih =>
    obtain ⟨most, rfl⟩ : ∃ less, most = less + 1 := ⟨most - 1, by omega⟩
    rw [attemptFrom]
    refine fun outcome => announce_waitsAtMost ?_ setup attempt outcome
    cases judge decoder outcome with
    | success response => trivial
    | failure failure cause =>
      simp only [say, Exchange.WaitsAtMost]
      split
      · exact ih (Nat.le_of_succ_le_succ bound) (attempt + 1)
      · trivial

theorem requestWith_waitsAtMost (config : ClientConfig) (decoder : Json.Decoder α)
    (method url : String) (payload : Payload) (options : CallOptions) (ambient : Option String)
    {most : Nat} (bound : options.retries.getD config.retries ≤ most) :
    (requestWith config decoder method url payload options ambient).WaitsAtMost most := by
  have calls : ∀ body,
      (request config decoder method url body options ambient).WaitsAtMost most := by
    intro body
    apply attemptFrom_waitsAtMost
    show min (options.retries.getD config.retries + 1) 0xFFFFFFFF - 1 ≤ most
    omega
  cases payload with
  | nothing => exact calls none
  | value body => exact calls (some body)
  | unserializable reason => trivial

end Call

end Gatehouse
