/-!
# Grants and their uses

In a list of events some are grants and others uses of them. A grant stands until the next use, and
the rule is honoured when each use finds a grant standing: no use goes without one, and no two uses
share one.
-/
namespace Gatehouse.Inbound

variable {Event : Type} {grant use event : Event} {past events : List Event}

/-- Whether a grant was given that nothing has used since. -/
def Stands (grant use : Event) (past : List Event) : Prop :=
  ∃ earlier later, past = earlier ++ grant :: later ∧ use ∉ later

/-- Whether each use follows a grant that no earlier use has used. -/
def Honoured (grant use : Event) (events : List Event) : Prop :=
  ∀ past rest, events = past ++ use :: rest → Stands grant use past

/-- What comes last is the event looked for, or stands behind it. -/
theorem cases_of_concat_eq {other : Event} {front back : List Event}
    (same : past ++ [event] = front ++ other :: back) :
    (past = front ∧ event = other)
      ∨ ∃ between, back = between ++ [event] ∧ past = front ++ other :: between := by
  rcases List.eq_nil_or_concat back with rfl | ⟨between, last, rfl⟩
  · obtain ⟨rfl, ends⟩ := List.append_inj' same rfl
    exact .inl ⟨rfl, List.singleton_inj.mp ends⟩
  · rw [List.concat_eq_append, ← List.cons_append, ← List.append_assoc] at same
    obtain ⟨rfl, ends⟩ := List.append_inj' same rfl
    rw [List.singleton_inj.mp ends, List.concat_eq_append]
    exact .inr ⟨between, rfl, rfl⟩

theorem Stands.mem (stands : Stands grant use past) : grant ∈ past := by
  obtain ⟨earlier, later, rfl, _⟩ := stands
  exact List.mem_append_right _ List.mem_cons_self

theorem stands_of_mem (granted : grant ∈ past) (unused : use ∉ past) : Stands grant use past := by
  obtain ⟨earlier, later, rfl⟩ := List.append_of_mem granted
  exact ⟨earlier, later, rfl, fun used =>
    unused (List.mem_append_right _ (List.mem_cons_of_mem _ used))⟩

theorem not_stands_nil : ¬ Stands grant use [] := fun stands => List.not_mem_nil stands.mem

theorem stands_concat :
    Stands grant use (past ++ [event])
      ↔ event = grant ∨ (event ≠ use ∧ Stands grant use past) := by
  constructor
  · rintro ⟨earlier, later, split, unused⟩
    rcases cases_of_concat_eq split with ⟨_, last⟩ | ⟨between, rfl, rfl⟩
    · exact .inl last
    · rw [List.mem_append, List.mem_singleton, not_or] at unused
      exact .inr ⟨Ne.symm unused.2, earlier, between, rfl, unused.1⟩
  · rintro (rfl | ⟨other, earlier, later, rfl, unused⟩)
    · exact ⟨past, [], rfl, List.not_mem_nil⟩
    · refine ⟨earlier, later ++ [event], by rw [List.append_assoc, List.cons_append], ?_⟩
      rw [List.mem_append, List.mem_singleton, not_or]
      exact ⟨unused, Ne.symm other⟩

theorem honoured_nil : Honoured grant use [] := by
  intro past rest split
  cases past <;> cases split

theorem honoured_concat :
    Honoured grant use (events ++ [event])
      ↔ Honoured grant use events ∧ (event = use → Stands grant use events) := by
  constructor
  · intro honoured
    constructor
    · rintro past rest rfl
      exact honoured past (rest ++ [event]) (by rw [List.append_assoc, List.cons_append])
    · rintro rfl
      exact honoured events [] rfl
  · rintro ⟨honoured, last⟩ past rest split
    rcases cases_of_concat_eq split with ⟨rfl, same⟩ | ⟨between, _, inside⟩
    · exact last same
    · exact honoured past between inside

theorem Stands.back (stands : Stands grant use (past ++ events)) (none : grant ∉ past) :
    Stands grant use events := by
  obtain ⟨earlier, later, split, unused⟩ := stands
  rcases List.append_eq_append_iff.mp split with ⟨between, _, inside⟩ | ⟨between, inside, rest⟩
  · exact ⟨between, later, inside, unused⟩
  · cases between with
    | nil => exact ⟨[], later, rest.symm, unused⟩
    | cons first between =>
      obtain ⟨rfl, _⟩ := List.cons.inj rest
      exact absurd (inside ▸ List.mem_append_right _ List.mem_cons_self) none

/-- Without a grant so far, the uses that follow need grants that follow as well. -/
theorem Honoured.back (honoured : Honoured grant use (past ++ events)) (none : grant ∉ past) :
    Honoured grant use events := by
  rintro front rest rfl
  exact (honoured (past ++ front) rest (List.append_assoc ..).symm).back none

end Gatehouse.Inbound
