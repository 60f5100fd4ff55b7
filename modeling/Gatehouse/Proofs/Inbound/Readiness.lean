import Gatehouse.Inbound.Readiness
import Gatehouse.Proofs.Inbound.Grants
import Mathlib.Data.List.Perm.Basic

/-!
# Calls go to ready instances

Handles and inner instances are under one rule: each call follows an answer that they were ready,
and no two calls follow the same answer. Each instance has one owner, a handle or a future. As long
as a handle keeps its instance, what the instance was asked is what the handle was asked; so whoever
keeps the rule with the handles has it kept with the instances.
-/
namespace Gatehouse.Inbound

/-! ## What a step does -/

namespace Handles

/-- The instances that a handle or a waiting future has. -/
def owned (handles : Handles) : List Nat := handles.held ++ handles.waiting

/-- What a step may do. -/
inductive Moves (handles : Handles) : HandleStep → Handles → Contact → Prop
  | poll {handle inner : Nat} (answer : Readiness) : handles.held[handle]? = some inner →
      Moves handles (.poll handle answer) handles (.polled inner answer)
  | call {handle inner : Nat} : handles.held[handle]? = some inner →
      Moves handles (.call handle)
        ⟨handles.held.set handle handles.fresh, handles.waiting ++ [inner], handles.fresh + 1⟩
        (.cloned inner handles.fresh)
  | clone {handle inner : Nat} : handles.held[handle]? = some inner →
      Moves handles (.clone handle)
        ⟨handles.held ++ [handles.fresh], handles.waiting, handles.fresh + 1⟩
        (.cloned inner handles.fresh)
  | drive {place inner : Nat} : handles.waiting[place]? = some inner →
      Moves handles (.drive place) { handles with waiting := handles.waiting.eraseIdx place }
        (.called inner)

theorem moves_of_step {handles next : Handles} {step : HandleStep} {contact : Contact}
    (moved : handles.step step = some (next, contact)) : handles.Moves step next contact := by
  cases step with
  | poll handle answer =>
    obtain ⟨inner, held, same⟩ := Option.map_eq_some_iff.mp moved
    cases same
    exact .poll answer held
  | call handle =>
    obtain ⟨inner, held, same⟩ := Option.map_eq_some_iff.mp moved
    cases same
    exact .call held
  | clone handle =>
    obtain ⟨inner, held, same⟩ := Option.map_eq_some_iff.mp moved
    cases same
    exact .clone held
  | drive place =>
    obtain ⟨inner, waits, same⟩ := Option.map_eq_some_iff.mp moved
    cases same
    exact .drive waits

theorem run_cons_eq_some_iff {handles last : Handles} {first : HandleStep}
    {rest : List HandleStep} {log : List Contact} :
    handles.run (first :: rest) = some (last, log)
      ↔ ∃ next contact more, handles.step first = some (next, contact)
          ∧ next.run rest = some (last, more) ∧ log = contact :: more := by
  simp only [run, Option.bind_eq_bind, Option.bind_eq_some_iff, Prod.exists, Option.some.injEq,
    Prod.mk.injEq]
  constructor
  · rintro ⟨next, contact, moved, _, more, ran, rfl, rfl⟩
    exact ⟨next, contact, more, moved, ran, rfl⟩
  · rintro ⟨next, contact, more, moved, ran, rfl⟩
    exact ⟨next, contact, moved, last, more, ran, rfl, rfl⟩

theorem run_append_eq_some_iff {handles last : Handles} {first second : List HandleStep}
    {log : List Contact} :
    handles.run (first ++ second) = some (last, log)
      ↔ ∃ middle told more, handles.run first = some (middle, told)
          ∧ middle.run second = some (last, more) ∧ log = told ++ more := by
  induction first generalizing handles log with
  | nil => simp [run]
  | cons step rest ih =>
    simp only [List.cons_append, run_cons_eq_some_iff, ih]
    constructor
    · rintro ⟨next, contact, _, moved, ⟨middle, told, more, before, behind, rfl⟩, rfl⟩
      exact ⟨middle, contact :: told, more, ⟨next, contact, told, moved, before, rfl⟩, behind, rfl⟩
    · rintro ⟨middle, _, more, ⟨next, contact, told, moved, before, rfl⟩, behind, rfl⟩
      exact ⟨next, contact, told ++ more, moved, ⟨middle, told, more, before, behind, rfl⟩, rfl⟩

theorem mem_owned_of_held {handles : Handles} {handle inner : Nat}
    (held : handles.held[handle]? = some inner) : inner ∈ handles.owned :=
  List.mem_append_left _ (List.mem_of_getElem? held)

theorem owned_call {handles : Handles} {handle inner : Nat}
    (held : handles.held[handle]? = some inner) :
    (owned ⟨handles.held.set handle handles.fresh, handles.waiting ++ [inner],
      handles.fresh + 1⟩).Perm (handles.fresh :: handles.owned) := by
  obtain ⟨bound, rfl⟩ := List.getElem?_eq_some_iff.mp held
  have kept : (handles.held.set handle handles.fresh).Perm
      (handles.fresh :: handles.held.eraseIdx handle) := List.set_perm_cons_eraseIdx bound _
  have given : (handles.held[handle] :: handles.held.eraseIdx handle).Perm handles.held :=
    List.getElem_cons_eraseIdx_perm bound
  calc handles.held.set handle handles.fresh ++ (handles.waiting ++ [handles.held[handle]])
      _ = (handles.held.set handle handles.fresh ++ handles.waiting) ++ [handles.held[handle]] :=
        (List.append_assoc ..).symm
      List.Perm _ (handles.held[handle] ::
          (handles.fresh :: handles.held.eraseIdx handle ++ handles.waiting)) :=
        (List.perm_append_singleton ..).trans ((kept.append_right _).cons _)
      List.Perm _ (handles.fresh ::
          (handles.held[handle] :: handles.held.eraseIdx handle ++ handles.waiting)) :=
        List.Perm.swap ..
      List.Perm _ (handles.fresh :: handles.owned) := (given.append_right _).cons _

theorem owned_clone (handles : Handles) :
    (owned ⟨handles.held ++ [handles.fresh], handles.waiting, handles.fresh + 1⟩).Perm
      (handles.fresh :: handles.owned) := by
  rw [owned, owned, List.append_assoc, List.singleton_append]
  exact List.perm_middle

theorem owned_drive {handles : Handles} {place inner : Nat}
    (waits : handles.waiting[place]? = some inner) :
    handles.owned.Perm
      (inner :: owned { handles with waiting := handles.waiting.eraseIdx place }) := by
  obtain ⟨bound, rfl⟩ := List.getElem?_eq_some_iff.mp waits
  exact ((List.getElem_cons_eraseIdx_perm bound).symm.append_left _).trans List.perm_middle

end Handles

/-! ## Instances and their owners -/

/-- Whether each instance has one owner, and none once it was called. -/
structure Apart (log : List Contact) (handles : Handles) : Prop where
  distinct : handles.owned.Nodup
  numbered : ∀ inner ∈ handles.owned, inner < handles.fresh
  polled : ∀ inner answer, .polled inner answer ∈ log → inner < handles.fresh
  called : ∀ inner, .called inner ∈ log → inner < handles.fresh ∧ inner ∉ handles.owned
  once : ∀ inner, log.count (.called inner) ≤ 1

namespace Apart

variable {log : List Contact} {handles next : Handles} {inner copy : Nat}

theorem start (count : Nat) : Apart [] (Handles.opened count) where
  distinct := by simpa [Handles.owned, Handles.opened] using List.nodup_range
  numbered := by simp [Handles.owned, Handles.opened]
  polled := by simp
  called := by simp
  once := by simp

theorem uncalled (apart : Apart log handles) (owns : inner ∈ handles.owned) :
    Contact.called inner ∉ log := fun called => (apart.called inner called).2 owns

theorem poll (apart : Apart log handles) (owns : inner ∈ handles.owned) (answer : Readiness) :
    Apart (log ++ [.polled inner answer]) handles where
  distinct := apart.distinct
  numbered := apart.numbered
  polled := by
    intro other given member
    rcases List.mem_append.mp member with before | last
    · exact apart.polled other given before
    · cases List.mem_singleton.mp last
      exact apart.numbered inner owns
  called := by simpa using apart.called
  once := by simpa using apart.once

theorem unpolled (apart : Apart log handles) (answer : Readiness) :
    Contact.polled handles.fresh answer ∉ log := fun polled =>
  Nat.lt_irrefl _ (apart.polled _ answer polled)

/-- A clone is an instance of its own. -/
theorem grow (apart : Apart log handles)
    (owns : next.owned.Perm (handles.fresh :: handles.owned))
    (counted : next.fresh = handles.fresh + 1) : Apart (log ++ [.cloned inner copy]) next where
  distinct := by
    refine owns.nodup_iff.mpr (List.nodup_cons.mpr ⟨fun taken => ?_, apart.distinct⟩)
    exact Nat.lt_irrefl _ (apart.numbered _ taken)
  numbered := by
    intro other member
    rw [counted]
    rcases List.mem_cons.mp (owns.mem_iff.mp member) with rfl | old
    · exact Nat.lt_succ_self _
    · exact Nat.lt_succ_of_lt (apart.numbered other old)
  polled := by
    intro other answer member
    rw [counted]
    exact Nat.lt_succ_of_lt (apart.polled other answer (by simpa using member))
  called := by
    intro other member
    obtain ⟨below, unowned⟩ := apart.called other (by simpa using member)
    rw [counted, owns.mem_iff, List.mem_cons, not_or]
    exact ⟨Nat.lt_succ_of_lt below, Nat.ne_of_lt below, unowned⟩
  once := by simpa using apart.once

/-- An instance that is called has no owner any more. -/
theorem drive (apart : Apart log handles) (owns : handles.owned.Perm (inner :: next.owned))
    (counted : next.fresh = handles.fresh) : Apart (log ++ [.called inner]) next := by
  have owned : inner ∈ handles.owned := owns.mem_iff.mpr List.mem_cons_self
  obtain ⟨gone, distinct⟩ := List.nodup_cons.mp (owns.nodup_iff.mp apart.distinct)
  have stays : ∀ other ∈ next.owned, other ∈ handles.owned := fun other member =>
    owns.mem_iff.mpr (List.mem_cons_of_mem _ member)
  refine ⟨distinct, ?_, ?_, ?_, ?_⟩
  · intro other member
    rw [counted]
    exact apart.numbered other (stays other member)
  · intro other answer member
    rw [counted]
    exact apart.polled other answer (by simpa using member)
  · intro other member
    rw [counted]
    rcases List.mem_append.mp member with before | last
    · obtain ⟨below, unowned⟩ := apart.called other before
      exact ⟨below, fun member => unowned (stays other member)⟩
    · cases List.mem_singleton.mp last
      exact ⟨apart.numbered inner owned, gone⟩
  · intro other
    rw [List.count_append]
    by_cases same : inner = other
    · subst same
      have first : log.count (.called inner) = 0 :=
        List.count_eq_zero_of_not_mem (apart.uncalled owned)
      simp [first]
    · simpa [same] using apart.once other

end Apart

/-! ## Handles and their instances -/

/-- Whether the instances of handles were found ready as the handles were. -/
structure Tracks (steps : List HandleStep) (log : List Contact) (handles : Handles) : Prop extends
    Apart log handles where
  known : ∀ handle answer, .poll handle answer ∈ steps → handle < handles.held.length
  ready : ∀ handle inner, handles.held[handle]? = some inner →
    (Contact.polled inner .ready ∈ log ↔ Stands (.poll handle .ready) (.call handle) steps)

namespace Tracks

variable {steps : List HandleStep} {log : List Contact} {handles next : Handles}

theorem start (count : Nat) : Tracks [] [] (Handles.opened count) where
  toApart := .start count
  known := by simp
  ready := by simp [not_stands_nil]

/-- No two handles have one instance. -/
theorem eq_of_held (tracks : Tracks steps log handles) {handle other inner : Nat}
    (held : handles.held[handle]? = some inner) (again : handles.held[other]? = some inner) :
    handle = other := by
  have single : handles.held.Nodup := (List.nodup_append.mp tracks.distinct).1
  obtain ⟨bound, _⟩ := List.getElem?_eq_some_iff.mp held
  exact (List.getElem?_inj bound single).mp (held.trans again.symm)

theorem poll (tracks : Tracks steps log handles) {handle inner : Nat}
    (held : handles.held[handle]? = some inner) (answer : Readiness) :
    Tracks (steps ++ [.poll handle answer]) (log ++ [.polled inner answer]) handles where
  toApart := tracks.toApart.poll (Handles.mem_owned_of_held held) answer
  known := by
    intro other given member
    rcases List.mem_append.mp member with before | last
    · exact tracks.known other given before
    · cases List.mem_singleton.mp last
      exact (List.getElem?_eq_some_iff.mp held).1
  ready := by
    intro other instead there
    rw [List.mem_append, List.mem_singleton, tracks.ready other instead there, stands_concat]
    by_cases same : handle = other
    · subst same
      obtain rfl := Option.some.inj (held.symm.trans there)
      simp [or_comm, eq_comm]
    · have differs : instead ≠ inner := fun twice =>
        same (tracks.eq_of_held held (twice ▸ there))
      simp [same, differs]

theorem call (tracks : Tracks steps log handles) {handle inner : Nat}
    (held : handles.held[handle]? = some inner) :
    Tracks (steps ++ [.call handle]) (log ++ [.cloned inner handles.fresh])
      ⟨handles.held.set handle handles.fresh, handles.waiting ++ [inner], handles.fresh + 1⟩ where
  toApart := tracks.toApart.grow (Handles.owned_call held) rfl
  known := by simpa using tracks.known
  ready := by
    intro other instead there
    rw [stands_concat]
    by_cases same : handle = other
    · -- The clone was never polled, and the call has used what the handle was told.
      subst same
      rw [List.getElem?_set_self (List.getElem?_eq_some_iff.mp held).1] at there
      obtain rfl := Option.some.inj there
      simp [tracks.unpolled]
    · rw [List.getElem?_set_ne same] at there
      simp [same, tracks.ready other instead there]

theorem clone (tracks : Tracks steps log handles) (handle inner : Nat) :
    Tracks (steps ++ [.clone handle]) (log ++ [.cloned inner handles.fresh])
      ⟨handles.held ++ [handles.fresh], handles.waiting, handles.fresh + 1⟩ where
  toApart := tracks.toApart.grow (Handles.owned_clone handles) rfl
  known := by
    intro other answer member
    rw [List.length_append]
    exact Nat.lt_add_right 1 (tracks.known other answer (by simpa using member))
  ready := by
    intro other instead there
    have kept : Stands (.poll other .ready) (.call other) (steps ++ [.clone handle])
        ↔ Stands (.poll other .ready) (.call other) steps := by simp [stands_concat]
    rw [kept]
    rcases Nat.lt_or_ge other handles.held.length with old | new
    · rw [List.getElem?_append_left old] at there
      simp [tracks.ready other instead there]
    · -- Neither the new handle nor the clone in it was polled.
      have unknown : ¬ Stands (.poll other .ready) (.call other) steps := fun stands =>
        absurd (tracks.known other .ready stands.mem) (Nat.not_lt.mpr new)
      rw [List.getElem?_append_right new] at there
      obtain rfl := List.mem_singleton.mp (List.mem_of_getElem? there)
      simp [unknown, tracks.unpolled]

theorem drive (tracks : Tracks steps log handles) {place inner : Nat}
    (waits : handles.waiting[place]? = some inner) :
    Tracks (steps ++ [.drive place]) (log ++ [.called inner])
      { handles with waiting := handles.waiting.eraseIdx place } where
  toApart := tracks.toApart.drive (Handles.owned_drive waits) rfl
  known := by simpa using tracks.known
  ready := by
    intro other instead there
    simp [stands_concat, tracks.ready other instead there]

theorem step (tracks : Tracks steps log handles) {step : HandleStep} {contact : Contact}
    (moves : handles.Moves step next contact) :
    Tracks (steps ++ [step]) (log ++ [contact]) next := by
  cases moves with
  | poll answer held => exact tracks.poll held answer
  | call held => exact tracks.call held
  | clone held => exact tracks.clone _ _
  | drive waits => exact tracks.drive waits

end Tracks

/-! ## Runs that keep the rule -/

/-- Whether the futures wait with instances that were found ready, and no instance was called
without. -/
structure Respects (log : List Contact) (handles : Handles) : Prop where
  granted : ∀ inner ∈ handles.waiting, .polled inner .ready ∈ log
  honoured : ∀ inner, Honoured (.polled inner .ready) (.called inner) log

variable {past rest : List HandleStep} {log more : List Contact} {handles last : Handles}

theorem respects_start (count : Nat) : Respects [] (Handles.opened count) where
  granted := by simp [Handles.opened]
  honoured := fun _ => honoured_nil

/-- A step keeps the rule if it calls no handle that was not found ready. -/
theorem Respects.step (respects : Respects log handles) (tracks : Tracks past log handles)
    {step : HandleStep} {next : Handles} {contact : Contact}
    (careful : ∀ handle, step = .call handle → Stands (.poll handle .ready) (.call handle) past)
    (moves : handles.Moves step next contact) : Respects (log ++ [contact]) next := by
  have before : ∀ inner ∈ handles.waiting, .polled inner .ready ∈ log ++ [contact] :=
    fun inner member => List.mem_append_left _ (respects.granted inner member)
  cases moves with
  | poll answer held =>
    exact ⟨before, fun other => honoured_concat.mpr ⟨respects.honoured other, nofun⟩⟩
  | @call handle inner held =>
    have found : .polled inner .ready ∈ log :=
      (tracks.ready handle inner held).mpr (careful handle rfl)
    refine ⟨?_, fun other => honoured_concat.mpr ⟨respects.honoured other, nofun⟩⟩
    refine List.forall_mem_append.mpr ⟨before, fun other member => ?_⟩
    rw [List.mem_singleton.mp member]
    exact List.mem_append_left _ found
  | clone held =>
    exact ⟨before, fun other => honoured_concat.mpr ⟨respects.honoured other, nofun⟩⟩
  | @drive place inner waits =>
    -- The instance waited since its handle was found ready, and was not called before.
    have member := List.mem_of_getElem? waits
    refine ⟨fun other stays => before other (List.mem_of_mem_eraseIdx stays), fun other => ?_⟩
    refine honoured_concat.mpr ⟨respects.honoured other, fun called => ?_⟩
    cases called
    exact stands_of_mem (respects.granted inner member)
      (tracks.uncalled (List.mem_append_right _ member))

theorem run_tracks (tracks : Tracks past log handles)
    (ran : handles.run rest = some (last, more)) : Tracks (past ++ rest) (log ++ more) last := by
  induction rest generalizing past log handles more with
  | nil =>
    cases ran
    simpa using tracks
  | cons first rest ih =>
    obtain ⟨next, contact, told, moved, behind, rfl⟩ := Handles.run_cons_eq_some_iff.mp ran
    have whole := ih (tracks.step (Handles.moves_of_step moved)) behind
    rwa [List.append_assoc, List.append_assoc, List.singleton_append, List.singleton_append]
      at whole

theorem run_respects (respects : Respects log handles) (tracks : Tracks past log handles)
    (careful : ∀ handle, Honoured (.poll handle .ready) (.call handle) (past ++ rest))
    (ran : handles.run rest = some (last, more)) : Respects (log ++ more) last := by
  induction rest generalizing past log handles more with
  | nil =>
    cases ran
    simpa using respects
  | cons first rest ih =>
    obtain ⟨next, contact, told, moved, behind, rfl⟩ := Handles.run_cons_eq_some_iff.mp ran
    have now : ∀ handle, first = .call handle →
        Stands (.poll handle .ready) (.call handle) past := by
      rintro handle rfl
      exact careful handle past rest rfl
    have moves := Handles.moves_of_step moved
    have whole := ih (respects.step tracks now moves) (tracks.step moves)
      (by simpa using careful) behind
    rwa [List.append_assoc, List.singleton_append] at whole

/-- A call leaves an instance in the handle that was not polled so far. -/
theorem unpolled_after_call {count handle : Nat} {middle : Handles} {told : List Contact}
    (ran : (Handles.opened count).run (past ++ [.call handle]) = some (middle, told)) :
    ∃ left, middle.held[handle]? = some left ∧ ∀ answer, .polled left answer ∉ told := by
  obtain ⟨before, seen, _, ranPast, ranCall, rfl⟩ := Handles.run_append_eq_some_iff.mp ran
  obtain ⟨_, _, _, moved, ended, rfl⟩ := Handles.run_cons_eq_some_iff.mp ranCall
  cases ended
  cases Handles.moves_of_step moved with
  | call held =>
    have bound : handle < before.held.length := (List.getElem?_eq_some_iff.mp held).1
    refine ⟨before.fresh, List.getElem?_set_self bound, fun answer => ?_⟩
    simpa using (run_tracks (.start count) ranPast).unpolled answer

/-- As long as each call of a handle follows an answer that the handle is ready, and no earlier call
has used that answer, the same holds of each inner instance and its own answers; and no instance is
called twice. What a call leaves in the handle was not polled so far, so it is called only after it
was polled and found ready in its turn. -/
theorem calls_go_to_ready_instances {count : Nat} {steps : List HandleStep}
    (ran : (Handles.opened count).run steps = some (last, log))
    (careful : ∀ handle, Honoured (.poll handle .ready) (.call handle) steps) :
    (∀ inner, Honoured (.polled inner .ready) (.called inner) log)
      ∧ (∀ inner, log.count (.called inner) ≤ 1)
      ∧ ∀ past handle rest, steps = past ++ .call handle :: rest →
          ∃ middle told left later,
            (Handles.opened count).run (past ++ [.call handle]) = some (middle, told)
              ∧ log = told ++ later
              ∧ middle.held[handle]? = some left
              ∧ (∀ answer, .polled left answer ∉ told)
              ∧ Honoured (.polled left .ready) (.called left) later := by
  have respects : Respects log last :=
    run_respects (respects_start count) (.start count) careful ran
  have tracks : Tracks steps log last := run_tracks (.start count) ran
  refine ⟨respects.honoured, tracks.once, ?_⟩
  rintro past handle rest rfl
  have whole : past ++ .call handle :: rest = (past ++ [.call handle]) ++ rest := by simp
  rw [whole] at ran
  obtain ⟨middle, told, later, ranCall, _, rfl⟩ := Handles.run_append_eq_some_iff.mp ran
  obtain ⟨left, held, unpolled⟩ := unpolled_after_call ranCall
  exact ⟨middle, told, left, later, ranCall, rfl, held, unpolled,
    (respects.honoured left).back (unpolled .ready)⟩

/-- Two handles, one of which is called twice; the futures are driven later and in another order. -/
theorem calls_go_to_ready_instances_out_of_order :
    let steps : List HandleStep :=
      [.poll 0 .pending, .poll 0 .ready, .clone 0, .call 0, .poll 0 .ready, .poll 1 .ready,
        .call 0, .drive 1, .call 1, .drive 0, .drive 0]
    let log : List Contact :=
      [.polled 0 .pending, .polled 0 .ready, .cloned 0 1, .cloned 0 2, .polled 2 .ready,
        .polled 1 .ready, .cloned 2 3, .called 2, .cloned 1 4, .called 0, .called 1]
    (Handles.opened 1).run steps = some (⟨[3, 4], [], 5⟩, log)
      ∧ (∀ handle, Honoured (.poll handle .ready) (.call handle) steps)
      ∧ (∀ inner, Honoured (.polled inner .ready) (.called inner) log)
      ∧ ∀ inner, log.count (.called inner) ≤ 1 := by
  intro steps log
  have ran : (Handles.opened 1).run steps = some (⟨[3, 4], [], 5⟩, log) := by decide
  have careful : ∀ handle, Honoured (.poll handle .ready) (.call handle) steps := by
    intro handle
    -- The rule is checked from the last step on.
    have backwards : steps = [.drive 0, .drive 0, .call 1, .drive 1, .call 0, .poll 1 .ready,
        .poll 0 .ready, .call 0, .clone 0, .poll 0 .ready, .poll 0 .pending].reverse := rfl
    rw [backwards]
    simp only [List.reverse_cons, List.reverse_nil, honoured_concat, honoured_nil, stands_concat]
    rcases handle with _ | _ | handle <;> simp
  obtain ⟨honoured, once, _⟩ := calls_go_to_ready_instances ran careful
  exact ⟨ran, careful, honoured, once⟩

end Gatehouse.Inbound
