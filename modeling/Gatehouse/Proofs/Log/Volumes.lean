import Gatehouse.Log.RollingFile
import Gatehouse.Proofs.Calendar.Civil
import Mathlib.Data.List.Induction

/-!
# Volumes of a log

What a rolling log holds, apart from any folder: volumes of one day each with the records in them,
the newest one first. A record is filed under the latest day so far. It goes into the newest volume,
or it opens the next one, and then the volumes of days past retention are dropped. What is left at
the end are the filings of the days that the last filing retains.
-/
namespace Gatehouse.RollingFile

/-- A file of the log by its day, its index and the records written to it. -/
structure Volume where
  date : Date
  index : Nat
  records : List Record

namespace Volume

def bytes (policy : Policy) (volume : Volume) : List UInt8 :=
  volume.records.flatMap (lineBytes policy)

/-- The records with the day they are filed under. -/
def filings (volume : Volume) : List (Record × Date) := volume.records.map (·, volume.date)

def Before (older newer : Volume) : Prop :=
  older.date < newer.date ∨ (older.date = newer.date ∧ older.index < newer.index)

end Volume

/-- The day a record is filed under after filings whose last day is `newest`. -/
def stamp (newest : Option Date) (record : Record) : Date :=
  match newest with
  | none => record.time.date
  | some date => date.later record.time.date

def filedFrom (newest : Option Date) : List Record → List (Record × Date)
  | [] => []
  | record :: rest =>
    let date := stamp newest record
    (record, date) :: filedFrom (some date) rest

/-- Records with the latest day among them and those before them. -/
def filed (records : List Record) : List (Record × Date) := filedFrom none records

def newestOf (filings : List (Record × Date)) : Option Date := filings.getLast?.map (·.2)

/-- Whether a day is not before the retention window that ends with another one. -/
def isRetained (policy : Policy) (newest date : Date) : Bool :=
  !(newest.minusDays policy.maxAgeDays).any fun cutoff => decide (date < cutoff)

/-- The filings that the last of them retains. -/
def retained (policy : Policy) (filings : List (Record × Date)) : List (Record × Date) :=
  filings.filter fun filing => (newestOf filings).all (isRetained policy · filing.2)

/-- A volume with its first record, and the older ones that it retains. -/
def openVolume (policy : Policy) (date : Date) (index : Nat) (record : Record)
    (volumes : List Volume) : List Volume :=
  ⟨date, index, [record]⟩ :: volumes.filter (isRetained policy date ·.date)

/-- The index of the volume to open for a record, unless the newest one takes it. -/
def rollsTo? (policy : Policy) (volumes : List Volume) (record : Record) : Option Nat :=
  match volumes with
  | [] => some 0
  | newest :: _ =>
    if newest.date < newest.date.later record.time.date then some 0
    else if isFull policy (newest.bytes policy).length (lineBytes policy record).length then
      some (newest.index + 1)
    else none

/-- The volumes after one more record. -/
def place (policy : Policy) (volumes : List Volume) (record : Record) : List Volume :=
  match rollsTo? policy volumes record, volumes with
  | some index, _ =>
    openVolume policy (stamp (volumes.head?.map Volume.date) record) index record volumes
  | none, [] => []
  | none, newest :: older => { newest with records := newest.records ++ [record] } :: older

/-! ## Days -/

theorem date_le_stamp (newest : Option Date) (record : Record) :
    ¬ stamp newest record < record.time.date := by
  cases newest with
  | none => exact Int.lt_irrefl _
  | some date => exact Date.not_later_lt_right date record.time.date

theorem isRetained_iff (policy : Policy) (newest date : Date) :
    isRetained policy newest date = true
      ↔ ∀ cutoff ∈ newest.minusDays policy.maxAgeDays, ¬ date < cutoff := by
  simp [isRetained, Option.any_eq_false]

theorem isRetained_self (policy : Policy) (date : Date) : isRetained policy date date = true := by
  rw [isRetained_iff]
  intro cutoff window
  simp only [Date.minusDays, Option.mem_def, Option.ite_none_right_eq_some, Option.some.injEq]
    at window
  obtain ⟨_, rfl⟩ := window
  simp only [Date.lt_iff_day]
  omega

/-- A later window retains no day that an earlier one does not. -/
theorem isRetained_of_later {policy : Policy} {earlier later date : Date}
    (order : ¬ later < earlier) (bounded : later.IsRepresentable)
    (held : isRetained policy later date = true) : isRetained policy earlier date = true := by
  rw [isRetained_iff] at held ⊢
  intro cutoff window
  simp only [Date.minusDays, Option.mem_def, Option.ite_none_right_eq_some, Option.some.injEq]
    at window held
  obtain ⟨inside, rfl⟩ := window
  simp only [Date.lt_iff_day, Date.IsRepresentable] at order bounded inside ⊢
  have later := held ⟨later.day - policy.maxAgeDays⟩
    ⟨⟨by simp only; omega, by simp only; omega⟩, rfl⟩
  simp only [Date.lt_iff_day] at later
  omega

/-! ## Filings -/

theorem filedFrom_append (newest : Option Date) (records : List Record) (record : Record) :
    filedFrom newest (records ++ [record])
      = filedFrom newest records
        ++ [(record, stamp ((newestOf (filedFrom newest records)).or newest) record)] := by
  induction records generalizing newest with
  | nil => rfl
  | cons first rest ih =>
    have last : (newestOf (filedFrom newest (first :: rest))).or newest
        = (newestOf (filedFrom (some (stamp newest first)) rest)).or
            (some (stamp newest first)) := by
      simp only [filedFrom, newestOf, List.getLast?_cons]
      cases (filedFrom (some (stamp newest first)) rest).getLast? <;> rfl
    rw [last]
    simp only [List.cons_append, filedFrom, ih]

theorem filed_append (records : List Record) (record : Record) :
    filed (records ++ [record])
      = filed records ++ [(record, stamp (newestOf (filed records)) record)] := by
  simp only [filed, filedFrom_append, Option.or_none]

/-- Records are filed in their order. -/
theorem filed_map_fst (records : List Record) : (filed records).map (·.1) = records := by
  induction records using List.reverseRecOn with
  | nil => rfl
  | append_singleton records record ih => simp [filed_append, ih]

theorem date_le_filed {records : List Record} {filing : Record × Date}
    (member : filing ∈ filed records) : ¬ filing.2 < filing.1.time.date := by
  induction records using List.reverseRecOn with
  | nil => cases member
  | append_singleton records record ih =>
    rw [filed_append, List.mem_append, List.mem_singleton] at member
    rcases member with member | rfl
    · exact ih member
    · exact date_le_stamp _ record

@[simp] theorem newestOf_append (filings : List (Record × Date)) (filing : Record × Date) :
    newestOf (filings ++ [filing]) = some filing.2 := by
  simp [newestOf]

/-- Days that exist are filed under days that exist. -/
theorem filed_representable {records : List Record}
    (dates : ∀ record ∈ records, record.time.date.IsRepresentable) :
    ∀ date ∈ newestOf (filed records), date.IsRepresentable := by
  induction records using List.reverseRecOn with
  | nil => intro date member; cases member
  | append_singleton records record ih =>
    have own := dates record (by simp)
    have before := ih fun record member => dates record (by simp [member])
    rw [filed_append, newestOf_append]
    intro date member
    obtain rfl := Option.some.inj member
    cases last : newestOf (filed records) with
    | none => exact own
    | some date => exact (before date last).later own

/-! ## One record more -/

/-- What volumes are after some records. -/
structure Shelved (policy : Policy) (records : List Record) (volumes : List Volume) : Prop where
  ordered : volumes.Pairwise fun newer older => older.Before newer
  gapless : ∀ volume ∈ volumes, volume.index = 0 ∨
    ∃ previous ∈ volumes, previous.date = volume.date ∧ previous.index + 1 = volume.index
  newest : volumes.head?.map Volume.date = newestOf (filed records)
  filings : volumes.reverse.flatMap Volume.filings = retained policy (filed records)
  short : ∀ volume ∈ volumes, volume.index < records.length

/-- A record either opens the volume behind all others or goes into the newest one. -/
theorem place_cases (policy : Policy) {volumes : List Volume}
    (ordered : volumes.Pairwise fun newer older => older.Before newer) (record : Record) :
    let date := stamp (volumes.head?.map Volume.date) record
    (∃ index, rollsTo? policy volumes record = some index
        ∧ place policy volumes record = openVolume policy date index record volumes
        ∧ (∀ volume ∈ volumes,
            volume.date < date ∨ (volume.date = date ∧ volume.index < index))
        ∧ (index = 0 ∨ ∃ newest older, volumes = newest :: older ∧ newest.date = date
            ∧ newest.index + 1 = index))
      ∨ ∃ newest older, rollsTo? policy volumes record = none
          ∧ volumes = newest :: older ∧ newest.date = date
          ∧ place policy volumes record
            = { newest with records := newest.records ++ [record] } :: older := by
  intro date
  have opens : ∀ index, rollsTo? policy volumes record = some index →
      place policy volumes record = openVolume policy date index record volumes := by
    intro index rolls
    simp only [place, rolls, date]
  cases volumes with
  | nil => exact .inl ⟨0, rfl, rfl, by simp, .inl rfl⟩
  | cons newest older =>
    have behind : ∀ volume ∈ older, volume.Before newest := fun volume member =>
      List.rel_of_pairwise_cons ordered member
    have decides : rollsTo? policy (newest :: older) record =
        if newest.date < date then some 0
        else if isFull policy (newest.bytes policy).length (lineBytes policy record).length then
          some (newest.index + 1)
        else none := rfl
    by_cases later : newest.date < date
    · -- A new day starts with its first volume.
      rw [if_pos later] at decides
      refine .inl ⟨0, decides, opens 0 decides, ?_, .inl rfl⟩
      intro volume member
      rcases List.mem_cons.mp member with rfl | member
      · exact .inl later
      · rcases behind volume member with earlier | ⟨same, _⟩
        · exact .inl (Int.lt_trans earlier later)
        · exact .inl (same ▸ later)
    · -- The day of the newest volume goes on, in it or in the next one.
      have same : newest.date = date := Date.eq_later_of_not_lt later
      rw [if_neg later] at decides
      split at decides
      · refine .inl ⟨newest.index + 1, decides, opens _ decides, ?_,
          .inr ⟨newest, older, rfl, same, rfl⟩⟩
        intro volume member
        rw [← same]
        rcases List.mem_cons.mp member with rfl | member
        · exact .inr ⟨rfl, Nat.lt_succ_self _⟩
        · rcases behind volume member with earlier | ⟨equal, below⟩
          · exact .inl earlier
          · exact .inr ⟨equal, Nat.lt_succ_of_lt below⟩
      · refine .inr ⟨newest, older, decides, rfl, same, ?_⟩
        simp only [place, decides]

theorem Shelved.stamp_eq {policy : Policy} {records : List Record} {volumes : List Volume}
    (shelved : Shelved policy records volumes) (record : Record) :
    stamp (volumes.head?.map Volume.date) record = stamp (newestOf (filed records)) record := by
  rw [shelved.newest]

/-- Retention after one more filing: the filings retained so far, less those of older days. -/
theorem retained_append (policy : Policy) (records : List Record) (record : Record)
    (dates : ∀ other ∈ records ++ [record], other.time.date.IsRepresentable) :
    retained policy (filed (records ++ [record]))
      = (retained policy (filed records)).filter
          (isRetained policy (stamp (newestOf (filed records)) record) ·.2)
        ++ [(record, stamp (newestOf (filed records)) record)] := by
  have bounded := filed_representable dates
  rw [filed_append, newestOf_append] at bounded
  let date := stamp (newestOf (filed records)) record
  -- Windows only move on, so what the new one retains was retained before.
  have shrinks : ∀ filing : Record × Date, isRetained policy date filing.2 = true →
      (newestOf (filed records)).all (isRetained policy · filing.2) = true := by
    intro filing held
    cases last : newestOf (filed records) with
    | none => rfl
    | some newest =>
      have order : ¬ date < newest := by
        simp only [date, last, stamp]
        exact Date.not_later_lt_left newest record.time.date
      exact isRetained_of_later order (bounded date rfl) held
  simp only [retained, filed_append, newestOf_append, Option.all_some, List.filter_append,
    List.filter_filter]
  congr 1
  · apply List.filter_congr
    intro filing _
    cases held : isRetained policy date filing.2 with
    | false => rfl
    | true => simp only [shrinks filing held, Bool.and_self]
  · simp only [List.filter_cons, isRetained_self, if_true, List.filter_nil]

theorem Volume.filings_filter (keeps : Date → Bool) (volume : Volume) :
    volume.filings.filter (keeps ·.2) = if keeps volume.date then volume.filings else [] := by
  split
  next kept =>
    apply List.filter_eq_self.mpr
    intro filing member
    obtain ⟨_, _, rfl⟩ := List.mem_map.mp member
    exact kept
  next dropped =>
    apply List.filter_eq_nil_iff.mpr
    intro filing member
    obtain ⟨_, _, rfl⟩ := List.mem_map.mp member
    exact dropped

theorem filings_filter (keeps : Date → Bool) (volumes : List Volume) :
    (volumes.filter (keeps ·.date)).reverse.flatMap Volume.filings
      = (volumes.reverse.flatMap Volume.filings).filter (keeps ·.2) := by
  rw [List.filter_flatMap, ← List.filter_reverse]
  induction volumes.reverse with
  | nil => rfl
  | cons volume rest ih =>
    rw [List.filter_cons, List.flatMap_cons, volume.filings_filter keeps, ← ih]
    split <;> rfl

section

variable {policy : Policy} {records : List Record} (record : Record)
  (dates : ∀ other ∈ records ++ [record], other.time.date.IsRepresentable)

include dates

theorem Shelved.openVolume {volumes : List Volume} (shelved : Shelved policy records volumes)
    {index : Nat}
    (behind : ∀ volume ∈ volumes, volume.date < stamp (newestOf (filed records)) record
      ∨ (volume.date = stamp (newestOf (filed records)) record ∧ volume.index < index))
    (follows : index = 0 ∨ ∃ newest older, volumes = newest :: older
      ∧ newest.date = stamp (newestOf (filed records)) record ∧ newest.index + 1 = index) :
    Shelved policy (records ++ [record])
      (openVolume policy (stamp (newestOf (filed records)) record) index record volumes) := by
  let date := stamp (newestOf (filed records)) record
  constructor
  case ordered =>
    refine List.pairwise_cons.mpr ⟨?_, shelved.ordered.filter _⟩
    intro volume member
    exact behind volume (List.mem_filter.mp member).1
  case gapless =>
    intro volume member
    rcases List.mem_cons.mp member with rfl | member
    · rcases follows with first | ⟨newest, older, rfl, same, next⟩
      · exact .inl first
      · -- The volume before the new one is of the same day, so it is not dropped.
        have held : isRetained policy date newest.date = true := by
          rw [same]
          exact isRetained_self policy _
        refine .inr ⟨newest, ?_, same, next⟩
        exact List.mem_cons_of_mem _ (List.mem_filter.mpr ⟨List.mem_cons_self, held⟩)
    · -- Volumes of one day are dropped together.
      obtain ⟨member, kept⟩ := List.mem_filter.mp member
      rcases shelved.gapless volume member with first | ⟨previous, before, sameDay, next⟩
      · exact .inl first
      · refine .inr ⟨previous, ?_, sameDay, next⟩
        exact List.mem_cons_of_mem _ (List.mem_filter.mpr ⟨before, sameDay ▸ kept⟩)
  case newest =>
    rw [filed_append, newestOf_append]
    rfl
  case filings =>
    rw [retained_append policy records record dates, ← shelved.filings,
      ← filings_filter (isRetained policy date), RollingFile.openVolume]
    simp [Volume.filings, date]
  case short =>
    intro volume member
    rw [List.length_append, List.length_singleton]
    rcases List.mem_cons.mp member with rfl | member
    · rcases follows with first | ⟨newest, older, rfl, _, next⟩
      · exact first ▸ Nat.succ_pos _
      · have bound := shelved.short newest List.mem_cons_self
        show index < records.length + 1
        omega
    · exact Nat.lt_succ_of_lt (shelved.short volume (List.mem_filter.mp member).1)

theorem Shelved.append {newest : Volume} {older : List Volume}
    (shelved : Shelved policy records (newest :: older))
    (same : newest.date = stamp (newestOf (filed records)) record) :
    Shelved policy (records ++ [record])
      ({ newest with records := newest.records ++ [record] } :: older) := by
  constructor
  case ordered =>
    exact List.pairwise_cons.mpr (List.pairwise_cons.mp shelved.ordered)
  case gapless =>
    intro volume member
    rcases List.mem_cons.mp member with rfl | member
    · rcases shelved.gapless newest List.mem_cons_self with first | ⟨previous, before, day, next⟩
      · exact .inl first
      · rcases List.mem_cons.mp before with rfl | before
        · omega
        · exact .inr ⟨previous, List.mem_cons_of_mem _ before, day, next⟩
    · rcases shelved.gapless volume (List.mem_cons_of_mem _ member) with
        first | ⟨previous, before, day, next⟩
      · exact .inl first
      · rcases List.mem_cons.mp before with rfl | before
        · exact .inr ⟨_, List.mem_cons_self, day, next⟩
        · exact .inr ⟨previous, List.mem_cons_of_mem _ before, day, next⟩
  case newest =>
    rw [filed_append, newestOf_append]
    exact congrArg some same
  case filings =>
    -- The day stays, and with it the window: nothing is dropped.
    have unchanged : (retained policy (filed records)).filter
          (isRetained policy (stamp (newestOf (filed records)) record) ·.2)
        = retained policy (filed records) := by
      apply List.filter_eq_self.mpr
      intro filing member
      have kept := (List.mem_filter.mp member).2
      rw [← shelved.newest] at kept
      simp only [List.head?_cons, Option.map_some, Option.all_some, same] at kept
      exact kept
    rw [retained_append policy records record dates, unchanged, ← shelved.filings]
    simp [Volume.filings, same]
  case short =>
    intro volume member
    rw [List.length_append, List.length_singleton]
    rcases List.mem_cons.mp member with rfl | member
    · exact Nat.lt_succ_of_lt (shelved.short newest List.mem_cons_self)
    · exact Nat.lt_succ_of_lt (shelved.short volume (List.mem_cons_of_mem _ member))

theorem Shelved.place {volumes : List Volume} (shelved : Shelved policy records volumes) :
    Shelved policy (records ++ [record]) (place policy volumes record) := by
  have cases := place_cases policy shelved.ordered record
  rw [shelved.stamp_eq record] at cases
  rcases cases with ⟨index, _, placed, behind, follows⟩ | ⟨newest, older, _, rfl, same, placed⟩
  · rw [placed]
    exact shelved.openVolume record dates behind follows
  · rw [placed]
    exact shelved.append record dates same

end

/-- The volumes that records leave, from an empty log on. -/
theorem shelved_foldl (policy : Policy) (records : List Record)
    (dates : ∀ record ∈ records, record.time.date.IsRepresentable) :
    Shelved policy records (records.foldl (place policy) []) := by
  -- From the last record on, as the days of all others are settled by those before them.
  induction records using List.reverseRecOn with
  | nil => exact ⟨.nil, by simp, rfl, rfl, by simp⟩
  | append_singleton records record ih =>
    rw [List.foldl_append, List.foldl_cons, List.foldl_nil]
    exact Shelved.place record dates (ih fun other member => dates other (by simp [member]))

end Gatehouse.RollingFile
