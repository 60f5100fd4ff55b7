import Gatehouse.Proofs.Ambient.Growth

/-!
# Waits for tasks

Which tasks a body waits for. Going on adds waits for tasks that are started on the way only, so
what all old waits and all new tasks have in common stays common to the waits.
-/
namespace Gatehouse.Ambient

variable {Context : Type}

mutual

/-- Whether all tasks that a body waits for are of some kind. -/
def Future.Awaits (kind : Nat → Prop) : Future Context → Prop
  | .ready _ => True
  | .fresh _ => True
  | .parked _ active _ => active.Awaits kind

def Active.Awaits (kind : Nat → Prop) : Active Context → Prop
  | .scope _ inner => inner.Awaits kind
  | .branches list => Future.AllAwait kind list
  | .child task => kind task
  | .wait => True

def Future.AllAwait (kind : Nat → Prop) : List (Future Context) → Prop
  | [] => True
  | future :: rest => future.Awaits kind ∧ Future.AllAwait kind rest

end

mutual

theorem Future.Awaits.imp {kind other : Nat → Prop} (implies : ∀ task, kind task → other task) :
    (future : Future Context) → future.Awaits kind → future.Awaits other
  | .ready _, _ => trivial
  | .fresh _, _ => trivial
  | .parked _ active _, awaits => Active.Awaits.imp implies active awaits

theorem Active.Awaits.imp {kind other : Nat → Prop} (implies : ∀ task, kind task → other task) :
    (active : Active Context) → active.Awaits kind → active.Awaits other
  | .scope _ inner, awaits => Future.Awaits.imp implies inner awaits
  | .branches list, awaits => Future.AllAwait.imp implies list awaits
  | .child task, awaits => implies task awaits
  | .wait, _ => trivial

theorem Future.AllAwait.imp {kind other : Nat → Prop} (implies : ∀ task, kind task → other task) :
    (list : List (Future Context)) → Future.AllAwait kind list → Future.AllAwait other list
  | [], _ => trivial
  | future :: rest, awaits =>
    ⟨Future.Awaits.imp implies future awaits.1, Future.AllAwait.imp implies rest awaits.2⟩

end

def Progress.Awaits (kind : Nat → Prop) : Progress Context → Prop
  | .ends _ => True
  | .waits active => active.Awaits kind

theorem awaits_ofScope {kind : Nat → Prop} (context : Context) {inner : Future Context}
    (awaits : inner.Awaits kind) : (Progress.ofScope context inner).Awaits kind := by
  cases inner with
  | ready entries => trivial
  | fresh body => exact awaits
  | parked done active rest => exact awaits

theorem awaits_ofBranches {kind : Nat → Prop} {list : List (Future Context)}
    (awaits : Future.AllAwait kind list) : (Progress.ofBranches list).Awaits kind := by
  unfold Progress.ofBranches
  split
  · trivial
  · exact awaits

/-- Whether the tasks that a later machine has in addition are of some kind. -/
def Adds (kind : Nat → Prop) (before after : Machine Context) : Prop :=
  ∀ task, before.jobs.length ≤ task → task < after.jobs.length → kind task

namespace Adds

variable {kind : Nat → Prop} {before middle after : Machine Context}

theorem first (adds : Adds kind before after) (late : Grows middle after) :
    Adds kind before middle :=
  fun task low high => adds task low (Nat.lt_of_lt_of_le high late.length_le)

theorem last (adds : Adds kind before after) (early : Grows before middle) :
    Adds kind middle after :=
  fun task low high => adds task (Nat.le_trans early.length_le low) high

theorem start {machine : Machine Context} {scope : Option Context} {body : List (Step Context)}
    (adds : Adds kind machine (machine.start scope body).2) :
    kind (machine.start scope body).1 :=
  adds _ (Nat.le_refl _) (by simp [Machine.start])

end Adds

/-! ## New waits -/

variable {kind : Nat → Prop}

theorem continueWith_awaits {done : List (Entry Context)} {rest : List (Step Context)}
    {machine : Machine Context} {reached : Progress Context × Machine Context}
    (grows : Grows machine reached.2)
    (here : Adds kind machine reached.2 → reached.1.Awaits kind)
    (others : ∀ done (after : Machine Context), Adds kind after (Step.beginAll rest done after).2 →
      (Step.beginAll rest done after).1.Awaits kind)
    (adds : Adds kind machine (continueWith done rest reached).2) :
    (continueWith done rest reached).1.Awaits kind := by
  obtain ⟨progress, after⟩ := reached
  cases progress with
  | ends entry => exact others (entry :: done) after (adds.last grows)
  | waits active => exact here adds

theorem askBranch_awaits {future : Future Context} {machine : Machine Context}
    (awaits : future.Awaits kind)
    (own : ∀ after : Machine Context, Adds kind after (future.poll after).2 →
      (future.poll after).1.Awaits kind)
    (adds : Adds kind machine (future.askBranch machine).2) :
    (future.askBranch machine).1.Awaits kind := by
  unfold Future.askBranch at adds ⊢
  by_cases goesOn : machine.verdict.1 = true
  · rw [if_pos goesOn] at adds ⊢
    exact own machine.verdict.2 (adds.last (Grows.verdict machine))
  · rw [if_neg goesOn]
    exact awaits

mutual

theorem Step.begin_awaits : (step : Step Context) → (machine : Machine Context) →
    Adds kind machine (step.begin machine).2 → (step.begin machine).1.Awaits kind
  | .observe, _, _ => trivial
  | .run context body, machine, adds =>
    awaits_ofScope context (Step.beginAll_awaits body [] (machine.setSlot (some context)) adds)
  | .runBlocking _ _, _, _ => trivial
  | .spawn _, _, adds => adds.start
  | .spawnWithContext _, _, adds => adds.start
  | .detach _ _, _, _ => trivial
  | .join branches, machine, adds =>
    awaits_ofBranches (Step.beginBranches_await branches machine adds)
  | .wait, _, _ => trivial

theorem Step.beginAll_awaits : (body : List (Step Context)) → (done : List (Entry Context)) →
    (machine : Machine Context) → Adds kind machine (Step.beginAll body done machine).2 →
    (Step.beginAll body done machine).1.Awaits kind
  | [], _, _, _ => trivial
  | step :: rest, done, machine, adds => by
    have here := Step.begin_awaits step machine
    rw [beginAll_cons] at adds ⊢
    exact continueWith_awaits (Step.begin_grows step machine) here (Step.beginAll_awaits rest) adds

theorem Step.beginBranches_await : (branches : List (List (Step Context))) →
    (machine : Machine Context) → Adds kind machine (Step.beginBranches branches machine).2 →
    Future.AllAwait kind (Step.beginBranches branches machine).1
  | [], _, _ => trivial
  | body :: rest, machine, adds => by
    let asked := (Future.fresh body).askBranch machine
    have grows : Grows machine asked.2 := askBranch_grows (Step.beginAll_grows body []) machine
    have addsHere : Adds kind machine asked.2 :=
      adds.first (Step.beginBranches_grows rest asked.2)
    have here : asked.1.Awaits kind :=
      askBranch_awaits trivial (Step.beginAll_awaits body []) addsHere
    exact ⟨here, Step.beginBranches_await rest asked.2 (adds.last grows)⟩

end

mutual

theorem Future.poll_awaits : (future : Future Context) → (machine : Machine Context) →
    future.Awaits kind → Adds kind machine (future.poll machine).2 →
    (future.poll machine).1.Awaits kind
  | .ready _, _, _, _ => trivial
  | .fresh body, machine, _, adds => Step.beginAll_awaits body [] machine adds
  | .parked done active rest, machine, awaits, adds => by
    have here := Active.poll_awaits active machine awaits
    rw [poll_parked] at adds ⊢
    exact continueWith_awaits (Active.poll_grows active machine) here (Step.beginAll_awaits rest)
      adds

theorem Active.poll_awaits : (active : Active Context) → (machine : Machine Context) →
    active.Awaits kind → Adds kind machine (active.poll machine).2 →
    (active.poll machine).1.Awaits kind
  | .scope context inner, machine, awaits, adds =>
    awaits_ofScope context (Future.poll_awaits inner (machine.setSlot (some context)) awaits adds)
  | .branches list, machine, awaits, adds =>
    awaits_ofBranches (Future.pollAll_await list machine awaits adds)
  | .child task, machine, awaits, _ => by
    simp only [Active.poll]
    split
    · trivial
    · exact awaits
  | .wait, machine, _, _ => by
    simp only [Active.poll]
    split
    · trivial
    · trivial

theorem Future.pollAll_await : (list : List (Future Context)) → (machine : Machine Context) →
    Future.AllAwait kind list → Adds kind machine (Future.pollAll list machine).2 →
    Future.AllAwait kind (Future.pollAll list machine).1
  | [], _, _, _ => trivial
  | future :: rest, machine, awaits, adds => by
    let asked := future.askBranch machine
    have grows : Grows machine asked.2 := askBranch_grows (Future.poll_grows future) machine
    have addsHere : Adds kind machine asked.2 := adds.first (Future.pollAll_grows rest asked.2)
    have own := fun after => Future.poll_awaits future after awaits.1
    have here : asked.1.Awaits kind := askBranch_awaits awaits.1 own addsHere
    exact ⟨here, Future.pollAll_await rest asked.2 awaits.2 (adds.last grows)⟩

end

end Gatehouse.Ambient
