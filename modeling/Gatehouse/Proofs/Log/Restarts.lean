import Gatehouse.Proofs.Log.FailedOpenings

/-!
# Sinks that take over

A new sink has no current file, so its first line goes to the first file of the day with room. That
may be a file that an earlier sink has rolled away from, if the line is shorter than the one that
did not fit. So the files of a day, read in order, hold the lines in the order of their writes as
long as no sink takes over where such a file has room. While one sink writes, the lines go forward.
-/
namespace Gatehouse.RollingFile

section

variable (policy : Policy) (folder : Folder) (date : Date)

/-- What the first files of a day hold, one behind the other. -/
def reading (count : Nat) : List UInt8 :=
  (List.range count).flatMap (bytesBefore policy folder date)

/-- Whether nothing is in the files of a day from an index on. -/
def EmptyFrom (start : Nat) : Prop :=
  ∀ index, start ≤ index → bytesBefore policy folder date index = []

/-- Whether a line has no room in front of a file of the day that has something in it. -/
def ResumesAtEnd (length : Nat) : Prop :=
  ∀ index last, index < last → bytesBefore policy folder date last ≠ [] →
    ¬ HasRoom policy folder date length index

end

variable {policy : Policy} {folder written : Folder} {date : Date}

theorem hasRoom_of_empty {length index : Nat} (empty : bytesBefore policy folder date index = []) :
    HasRoom policy folder date length index :=
  hasRoom_iff.mpr (.inl empty)

theorem bytesBefore_empty {path : String} (index : Nat) :
    bytesBefore policy (Folder.empty path) date index = [] := by
  unfold bytesBefore Folder.contentAt?
  split
  · have free : ∀ place, (Folder.empty path).find? place = none
        ∨ (Folder.empty path).find? place = some .directory := by
      intro place
      unfold Folder.find?
      split
      · exact .inr rfl
      · exact .inl rfl
    rename_i place _
    rcases free place with free | free <;> rw [free] <;> rfl
  · rfl
  · rfl
  · rfl

/-- The first file with room is behind all that have something in them just if none of the files
in front of those has room. -/
theorem IsFirstWithRoom.isLast_iff {length index : Nat}
    (first : IsFirstWithRoom policy folder date length 0 index) :
    (∀ last, bytesBefore policy folder date last ≠ [] → last ≤ index)
      ↔ ResumesAtEnd policy folder date length := by
  constructor
  · intro behind earlier last before filled
    apply first.full earlier (Nat.zero_le earlier)
    exact Nat.lt_of_lt_of_le before (behind last filled)
  · intro resumes last filled
    by_contra beyond
    exact resumes index last (Nat.not_le.mp beyond) filled first.room

/-- Files without room in front of the last one in use send a first line to the end. -/
theorem ResumesAtEnd.of_full {length last : Nat}
    (full : ∀ index < last, ¬ HasRoom policy folder date length index)
    (empty : EmptyFrom policy folder date (last + 1)) : ResumesAtEnd policy folder date length := by
  intro index later before filled
  apply full index
  by_contra beyond
  exact filled (empty later (by omega))

/-! ## What a write leaves in the files of its day -/

theorem GoesTo.keepsDirectories {index : Nat} {line : List UInt8} {after : OpenFile} {place : Place}
    (goes : GoesTo policy folder written date index line after place)
    (kept : folder.KeepsDirectories written) : written.KeepsDirectories folder where
  home := kept.home.symm
  reach := kept.reach.symm
  directories := by
    intro other held
    by_cases here : other = place
    · rw [here, goes.bytes] at held
      cases held
    · rcases goes.others other here with same | ⟨gone, _⟩
      · rwa [← same]
      · rw [gone] at held
        cases held

section

variable (representable : date.IsRepresentable) (kept : folder.KeepsDirectories written)
  {index : Nat} {line : List UInt8} {after : OpenFile} {place : Place}
  (goes : GoesTo policy folder written date index line after place)

include kept goes

theorem GoesTo.bytesBefore_self :
    bytesBefore policy written date index = bytesBefore policy folder date index ++ line := by
  have content := (Folder.contentAt?_of_leadsTo (kept.leadsTo goes.leads)).mpr ⟨_, goes.bytes⟩
  rw [bytesBefore, content]
  rfl

include representable

/-- The other files of the day are neither written to nor removed. -/
theorem GoesTo.bytesBefore_of_ne {number : Nat} (apart : number ≠ index) :
    bytesBefore policy written date number = bytesBefore policy folder date number := by
  have back := goes.keepsDirectories kept
  rw [bytesBefore, bytesBefore, Folder.contentAt?_congr fun _ => ⟨back.locate, kept.locate⟩]
  intro there located
  have elsewhere : there ≠ place := by
    rintro rfl
    exact apart (index_inj representable located goes.leads.located)
  rcases goes.others there elsewhere with same | ⟨_, entry, _, expires⟩
  · exact same
  · have stays := isKept_of_located representable located entry
    rw [isKept_eq_false_iff.mpr expires] at stays
    cases stays

/-- A line behind all that is in the day's files is the end of what they read as. -/
theorem GoesTo.reading (last : EmptyFrom policy folder date (index + 1)) {count : Nat}
    (beyond : index < count) :
    RollingFile.reading policy written date count
      = RollingFile.reading policy folder date count ++ line := by
  unfold RollingFile.reading
  induction count with
  | zero => cases beyond
  | succ count ih =>
    simp only [List.range_succ, List.flatMap_append, List.flatMap_singleton]
    rcases Nat.lt_or_eq_of_le (Nat.le_of_lt_succ beyond) with more | rfl
    · rw [ih more, goes.bytesBefore_of_ne representable kept (by omega), last count more]
      simp
    · have before : (List.range index).flatMap (bytesBefore policy written date)
          = (List.range index).flatMap (bytesBefore policy folder date) := by
        apply List.flatMap_congr
        intro earlier member
        apply goes.bytesBefore_of_ne representable kept
        exact Nat.ne_of_lt (List.mem_range.mp member)
      rw [before, goes.bytesBefore_self kept, List.append_assoc]

theorem GoesTo.emptyFrom {start : Nat} (beyond : index < start)
    (empty : EmptyFrom policy folder date start) : EmptyFrom policy written date start := by
  intro later order
  rw [goes.bytesBefore_of_ne representable kept (by omega), empty later order]

end

theorem reading_of_emptyFrom {count : Nat} (empty : EmptyFrom policy folder date count)
    (more : Nat) : reading policy folder date (count + more) = reading policy folder date count := by
  unfold reading
  induction more with
  | zero => rfl
  | succ more ih =>
    rw [← Nat.add_assoc, List.range_succ, List.flatMap_append, ih, List.flatMap_singleton,
      empty _ (Nat.le_add_right _ _), List.append_nil]

/-! ## One write -/

/-- A write of an enabled record that succeeds puts the line into the file that takes it. -/
theorem write_goes (formed : folder.WellFormed) {current : Option OpenFile}
    (stands : ∀ file ∈ current, file.Stands policy folder) {record : Record}
    (representable : (filingDate current record).IsRepresentable)
    (enabled : record.level.isEnabled policy.maxLevel = true)
    (ok : (write policy record current folder).1.isOk = true) :
    let date := filingDate current record
    let line := lineBytes policy record
    ∃ index place after written,
      write policy record current folder = (.ok (), some after, written)
        ∧ Picks policy folder date line.length current index
        ∧ GoesTo policy folder written date index line after place
        ∧ folder.KeepsDirectories written := by
  intro date line
  rcases nextIndex?_cases policy folder current record line.length with
    ⟨file, rfl, stays, same, fits⟩ | ⟨start, rolls, picks⟩
  · obtain ⟨place, goes⟩ := goesTo_current formed (stands file rfl) fits
    rw [same] at goes
    exact ⟨file.index, place, _, _, write_of_stays enabled stays, .stays same fits, goes,
      Folder.keepsDirectories_append folder file.identity line⟩
  · have opens : Opens policy folder date line.length start := by
      rcases opens_or_sticks policy folder date line.length start with opens | ⟨_, error, sticks⟩
      · exact opens
      · rw [write_of_sticks formed representable enabled rolls sticks] at ok
        cases ok
    obtain ⟨index, first, bound⟩ := exists_isFirstWithRoom formed representable opens
    obtain ⟨place, file, opened, room, goes⟩ :=
      goesTo_opened formed representable opens first bound
    have kept : folder.KeepsDirectories opened := by
      obtain ⟨_, _, _, _, alone, _, kept, _⟩ :=
        openFile_leaves formed representable (opens index first.order first.full)
      have enough : index ≤ start + (folder.entries.length + 1) := by omega
      have searched := search_eq formed representable opens first enough
      rw [openWithRoom_eq, searched, alone] at room
      cases room
      exact kept
    exact ⟨index, place, _, _, write_of_rolls enabled rolls room, picks index first, goes,
      kept.trans (Folder.keepsDirectories_append opened file.identity line)⟩

/-- Whether a sink is at the end of a day: behind its current file there is nothing, and the files
of the day with something in them are among the first `count`. -/
structure AtEnd (policy : Policy) (date : Date) (count : Nat) (state : Option OpenFile × Folder) :
    Prop where
  formed : state.2.WellFormed
  stands : ∀ file ∈ state.1, file.Stands policy state.2
  last : ∀ file ∈ state.1, file.date = date ∧ file.index < count
    ∧ EmptyFrom policy state.2 date (file.index + 1)
  beyond : EmptyFrom policy state.2 date count

section

variable {current : Option OpenFile} {count : Nat} (atEnd : AtEnd policy date count (current, folder))

include atEnd

/-- The file that takes the next line has nothing behind it. -/
theorem AtEnd.picks {length index : Nat} (picks : Picks policy folder date length current index)
    (resumes : current = none → ResumesAtEnd policy folder date length) :
    index ≤ count ∧ EmptyFrom policy folder date (index + 1) := by
  cases picks with
  | fresh first =>
    constructor
    · by_contra beyond
      apply first.full count (Nat.zero_le count) (Nat.not_le.mp beyond)
      exact hasRoom_of_empty (atEnd.beyond count (Nat.le_refl count))
    · intro later order
      by_contra filled
      exact resumes rfl index later order filled first.room
  | newDay later =>
    obtain ⟨rfl, _⟩ := atEnd.last _ rfl
    exact absurd later (Int.lt_irrefl _)
  | stays =>
    obtain ⟨_, below, behind⟩ := atEnd.last _ rfl
    exact ⟨Nat.le_of_lt below, behind⟩
  | @rolls file _ _ _ _ first =>
    obtain ⟨_, below, behind⟩ := atEnd.last file rfl
    have next : index = file.index + 1 := by
      by_contra further
      apply first.full (file.index + 1) (Nat.le_refl _) (by have := first.order; omega)
      exact hasRoom_of_empty (behind _ (Nat.le_refl _))
    subst next
    exact ⟨below, fun later order => behind later (by omega)⟩

theorem AtEnd.filingDate_eq {record : Record} (day : record.time.date = date) :
    filingDate current record = date := by
  cases current with
  | none => exact day
  | some file =>
    obtain ⟨same, _⟩ := atEnd.last file rfl
    simp [filingDate, same, day, Date.later]

/-- A line that is written goes behind all others of its day. -/
theorem AtEnd.write {record : Record} (representable : date.IsRepresentable)
    (day : record.time.date = date) (enabled : record.level.isEnabled policy.maxLevel = true)
    (ok : (write policy record current folder).1.isOk = true)
    (resumes : current = none →
      ResumesAtEnd policy folder date (lineBytes policy record).length) :
    AtEnd policy date (count + 1) (RollingFile.write policy record current folder).2
      ∧ reading policy (RollingFile.write policy record current folder).2.2 date (count + 1)
        = reading policy folder date count ++ lineBytes policy record := by
  have same := atEnd.filingDate_eq day
  have formed : (RollingFile.write policy record current folder).2.2.WellFormed :=
    write_wellFormed record current atEnd.formed
  obtain ⟨index, place, after, written, wrote, picks, goes, kept⟩ :=
    write_goes atEnd.formed atEnd.stands (by rw [same]; exact representable) enabled ok
  rw [same] at picks goes
  obtain ⟨within, behind⟩ := atEnd.picks picks resumes
  rw [wrote] at formed ⊢
  constructor
  · constructor
    case formed => exact formed
    case stands =>
      rintro file ⟨⟩
      exact goes.stands
    case last =>
      rintro file ⟨⟩
      obtain ⟨day, number⟩ := goes.isCurrent
      rw [number]
      exact ⟨day, by omega, goes.emptyFrom representable kept (by omega) behind⟩
    case beyond =>
      apply goes.emptyFrom representable kept (by omega)
      exact fun later order => atEnd.beyond later (by omega)
  · rw [goes.reading representable kept behind (by omega), reading_of_emptyFrom atEnd.beyond]

end

/-! ## Runs -/

theorem bytesBefore_prune (formed : folder.WellFormed) (representable : date.IsRepresentable)
    (index : Nat) : bytesBefore policy (prune policy date folder) date index
      = bytesBefore policy folder date index := by
  have leads : ∀ target, (prune policy date folder).locate (fileName policy date index) = .ok target
      ↔ folder.locate (fileName policy date index) = .ok target := by
    intro target
    rw [locate_prune formed date date index]
  rw [bytesBefore, bytesBefore, Folder.contentAt?_congr leads]
  intro place located
  exact find?_prune_of_located formed representable located

section

variable {current : Option OpenFile} {count : Nat} (atEnd : AtEnd policy date count (current, folder))

include atEnd

theorem AtEnd.prune (representable : date.IsRepresentable) :
    AtEnd policy date count (current, RollingFile.prune policy date folder) := by
  have same : ∀ index, bytesBefore policy (RollingFile.prune policy date folder) date index
      = bytesBefore policy folder date index := bytesBefore_prune atEnd.formed representable
  constructor
  case formed => exact prune_wellFormed policy date atEnd.formed
  case stands =>
    intro file isCurrent
    obtain ⟨rfl, _⟩ := atEnd.last file isCurrent
    obtain ⟨_, place, bytes, leads, held, size⟩ := atEnd.stands file isCurrent
    refine ⟨representable, place, bytes, ?_, ?_, size⟩
    · exact (keepsDirectories_prune policy file.date atEnd.formed).leadsTo leads
    · rwa [find?_prune_of_located atEnd.formed representable leads.located]
  case last =>
    intro file isCurrent
    obtain ⟨day, below, behind⟩ := atEnd.last file isCurrent
    exact ⟨day, below, fun index order => (same index).trans (behind index order)⟩
  case beyond =>
    intro index order
    exact (same index).trans (atEnd.beyond index order)

theorem AtEnd.mono {more : Nat} (order : count ≤ more) :
    AtEnd policy date more (current, folder) where
  formed := atEnd.formed
  stands := atEnd.stands
  last := by
    intro file isCurrent
    obtain ⟨day, below, behind⟩ := atEnd.last file isCurrent
    exact ⟨day, by omega, behind⟩
  beyond := fun index later => atEnd.beyond index (by omega)

end

/-- The line that is stored when something happens, if one is. -/
def storedBy (policy : Policy) (state : Option OpenFile × Folder) : Happening → List UInt8
  | .write record =>
    if record.level.isEnabled policy.maxLevel && (write policy record state.1 state.2).1.isOk then
      lineBytes policy record
    else []
  | .restart | .others _ => []

/-- The lines that a run stores, in the order of their writes. -/
def stored (policy : Policy) : Option OpenFile × Folder → List Happening → List UInt8
  | _, [] => []
  | state, next :: rest => storedBy policy state next ++ stored policy (happen policy state next) rest

/-- Whether what happens is about one day: a write of a record of it, or a new sink. -/
def Happening.IsOf (date : Date) : Happening → Prop
  | .write record => record.time.date = date
  | .restart => True
  | .others _ => False

/-- Whether what happens is not a first line for which an older file has room. -/
def Happening.KeepsOrder (policy : Policy) (date : Date) (state : Option OpenFile × Folder) :
    Happening → Prop
  | .write record => record.level.isEnabled policy.maxLevel = true → state.1 = none →
      ResumesAtEnd policy state.2 date (lineBytes policy record).length
  | .restart | .others _ => True

/-- Whether no new sink of a run finds room for its first line in an older file. -/
def KeepsOrder (policy : Policy) (date : Date) :
    Option OpenFile × Folder → List Happening → Prop
  | _, [] => True
  | state, next :: rest =>
    next.KeepsOrder policy date state ∧ KeepsOrder policy date (happen policy state next) rest

/-- What is stored goes behind all that is in the files of the day. -/
theorem AtEnd.happen {state : Option OpenFile × Folder} {count : Nat}
    (atEnd : AtEnd policy date count state) (representable : date.IsRepresentable)
    {next : Happening} (day : next.IsOf date) (keeps : next.KeepsOrder policy date state) :
    AtEnd policy date (count + 1) (RollingFile.happen policy state next)
      ∧ reading policy (RollingFile.happen policy state next).2 date (count + 1)
        = reading policy state.2 date count ++ storedBy policy state next := by
  obtain ⟨current, folder⟩ := state
  have same : reading policy folder date (count + 1) = reading policy folder date count :=
    reading_of_emptyFrom atEnd.beyond 1
  cases next with
  | others change => cases day
  | restart =>
    have fresh : AtEnd policy date count (none, folder) :=
      ⟨atEnd.formed, by simp, by simp, atEnd.beyond⟩
    simp only [storedBy, List.append_nil]
    exact ⟨fresh.mono (Nat.le_succ count), same⟩
  | write record =>
    cases enabled : record.level.isEnabled policy.maxLevel with
    | false =>
      have unchanged := write_of_not_isEnabled enabled current folder
      simp only [RollingFile.happen, storedBy, unchanged, enabled, Bool.false_and,
        Bool.false_eq_true, if_false, List.append_nil]
      exact ⟨atEnd.mono (Nat.le_succ count), same⟩
    | true =>
      cases ok : (RollingFile.write policy record current folder).1.isOk with
      | true =>
        simp only [storedBy, enabled, ok, Bool.and_self, if_true]
        exact atEnd.write representable day enabled ok (keeps enabled)
      | false =>
        simp only [RollingFile.happen, storedBy, enabled, ok, Bool.and_false, Bool.false_eq_true,
          if_false, List.append_nil]
        -- A write that fails leaves the current file, and at most the folder is pruned.
        cases wrote : RollingFile.write policy record current folder with
        | mk result left =>
          cases result with
          | ok => simp [wrote, Except.isOk, Except.toBool] at ok
          | error error =>
            obtain ⟨after, left⟩ := left
            obtain ⟨rfl, rfl | pruned⟩ := write_error wrote
            · exact ⟨atEnd.mono (Nat.le_succ count), same⟩
            · rw [atEnd.filingDate_eq day] at pruned
              subst pruned
              have less := atEnd.prune representable
              refine ⟨less.mono (Nat.le_succ count), ?_⟩
              rw [reading_of_emptyFrom less.beyond, reading, reading,
                funext (bytesBefore_prune atEnd.formed representable)]

/-- A run in which the lines of each new sink start behind those of the last one. -/
theorem AtEnd.run {state : Option OpenFile × Folder} {count : Nat}
    (atEnd : AtEnd policy date count state) (representable : date.IsRepresentable)
    {happenings : List Happening} (days : ∀ next ∈ happenings, next.IsOf date)
    (keeps : KeepsOrder policy date state happenings) :
    AtEnd policy date (count + happenings.length)
        (happenings.foldl (RollingFile.happen policy) state)
      ∧ reading policy (happenings.foldl (RollingFile.happen policy) state).2 date
          (count + happenings.length)
        = reading policy state.2 date count ++ stored policy state happenings := by
  induction happenings generalizing state count with
  | nil =>
    simp only [stored, List.append_nil]
    exact ⟨atEnd, rfl⟩
  | cons next rest ih =>
    rw [List.forall_mem_cons] at days
    obtain ⟨here, read⟩ := atEnd.happen representable days.1 keeps.1
    obtain ⟨final, all⟩ := ih here days.2 keeps.2
    have total : count + (next :: rest).length = count + 1 + rest.length := by
      rw [List.length_cons]
      omega
    rw [List.foldl_cons, total]
    refine ⟨final, ?_⟩
    rw [all, read, stored, List.append_assoc]

/-- Where a new sink writes its first line of a day: the line goes to a file that has nothing of the
day behind it just if no file in front of the last one in use has room. So in any run of sinks that
take over from each other on one folder, and write records of one day, the files of the day read in
order as what was there before the run and then the stored lines in the order of their writes, if
each first line finds no room in front. All that the day's files hold is in those that are read. -/
theorem restarts_keep_order (policy : Policy) {date : Date} (representable : date.IsRepresentable)
    {folder : Folder} (formed : folder.WellFormed) :
    (∀ record : Record, record.time.date = date →
      record.level.isEnabled policy.maxLevel = true →
      (write policy record none folder).1.isOk = true →
      ∃ index place after written, write policy record none folder = (.ok (), some after, written)
        ∧ GoesTo policy folder written date index (lineBytes policy record) after place
        ∧ ((∀ last, bytesBefore policy folder date last ≠ [] → last ≤ index)
            ↔ ResumesAtEnd policy folder date (lineBytes policy record).length))
    ∧ ∀ (happenings : List Happening) (count : Nat), (∀ next ∈ happenings, next.IsOf date) →
        EmptyFrom policy folder date count → KeepsOrder policy date (none, folder) happenings →
        let final := (happenings.foldl (happen policy) (none, folder)).2
        let total := count + happenings.length
        reading policy final date total
            = reading policy folder date count ++ stored policy (none, folder) happenings
          ∧ EmptyFrom policy final date total := by
  constructor
  · rintro record rfl enabled ok
    have stands : ∀ file ∈ (none : Option OpenFile), file.Stands policy folder := by simp
    obtain ⟨index, place, after, written, wrote, picks, goes, _⟩ :=
      write_goes formed stands representable enabled ok
    cases picks with
    | fresh first => exact ⟨index, place, after, written, wrote, goes, first.isLast_iff⟩
  · intro happenings count days empty keeps
    have start : AtEnd policy date count (none, folder) := ⟨formed, by simp, by simp, empty⟩
    obtain ⟨final, read⟩ := start.run representable days keeps
    exact ⟨read, final.beyond⟩

/-- A restart behind a rolled file: the first line of the new sink is too long for the room that the
first file has left, so it goes behind the line in the second one. -/
theorem restarts_keep_order_behind_full_file :
    let policy : Policy := { Policy.ofStem "app" with maxSize := 220, maxAgeDays := 7 }
    let record (message : String) : Record :=
      { level := .info, message := message, context := none, requestId := none, trace := none,
        metadata := [], time := ⟨20513 * 86400, 0⟩ }
    let long := record "the first line is a long one, so that the next one rolls"
    let front : List Happening := [.write long, .write (record "second")]
    let run := front ++ [.restart, .write (record "resumed")]
    let folder := Folder.empty "logs"
    reading policy (run.foldl (happen policy) (none, folder)).2 ⟨20513⟩ 4
        = stored policy (none, folder) run
      ∧ stored policy (none, folder) run = lineBytes policy long
        ++ lineBytes policy (record "second") ++ lineBytes policy (record "resumed")
      ∧ ∃ index, ∀ last, bytesBefore policy folder ⟨20513⟩ last ≠ [] → last ≤ index := by
  intro policy record long front run folder
  have empty : EmptyFrom policy folder ⟨20513⟩ 0 := fun index _ => bytesBefore_empty index
  have nothing : ∀ length, ResumesAtEnd policy folder ⟨20513⟩ length :=
    fun length index last _ filled => absurd (empty last (Nat.zero_le last)) filled
  have days : ∀ next ∈ run, next.IsOf ⟨20513⟩ := by
    simp [run, front, Happening.IsOf]
    decide
  have isOpen : (happen policy (none, folder) (.write long)).1.isSome := by decide +kernel
  have full : ¬ HasRoom policy (front.foldl (happen policy) (none, folder)).2 ⟨20513⟩
      (lineBytes policy (record "resumed")).length 0 := by
    rw [hasRoom_iff]
    decide +kernel
  have lines : stored policy (none, folder) run = lineBytes policy long
      ++ lineBytes policy (record "second") ++ lineBytes policy (record "resumed") := by
    decide +kernel
  have ok : (write policy long none folder).1.isOk = true := by decide +kernel
  obtain ⟨single, runs⟩ := restarts_keep_order policy
    (by decide : Date.IsRepresentable ⟨20513⟩) (Folder.wellFormed_empty "logs")
  -- While the first sink has a current file, nothing is asked of its lines.
  have second : (Happening.write (record "second")).KeepsOrder policy ⟨20513⟩
      (happen policy (none, folder) (.write long)) := by
    intro _ none
    rw [none] at isOpen
    cases isOpen
  have first : (Happening.write long).KeepsOrder policy ⟨20513⟩ (none, folder) :=
    fun _ _ => nothing _
  obtain ⟨_, behind⟩ := runs front 0 (fun next member => days next (List.mem_append_left _ member))
    empty ⟨first, second, trivial⟩
  have last : (Happening.write (record "resumed")).KeepsOrder policy ⟨20513⟩
      (happen policy (front.foldl (happen policy) (none, folder)) .restart) := by
    generalize front.foldl (happen policy) (none, folder) = reached at full behind ⊢
    intro _ _
    have front : ∀ index < 1, ¬ HasRoom policy reached.2 ⟨20513⟩
        (lineBytes policy (record "resumed")).length index := by
      intro index before
      rwa [Nat.lt_one_iff.mp before]
    exact .of_full front behind
  obtain ⟨read, _⟩ := runs run 0 days empty ⟨first, second, trivial, last, trivial⟩
  obtain ⟨place, _, _, _, _, _, resumes⟩ := single long (by decide) (by decide) ok
  have before : reading policy folder ⟨20513⟩ 0 = [] := rfl
  have total : 0 + run.length = 4 := rfl
  rw [before, List.nil_append, total] at read
  exact ⟨read, lines, place, resumes.mpr (nothing _)⟩

/-- A restart behind a rolled file, and a first line that is short: it goes to the first file, in
front of the line in the second one, which was written before it. -/
theorem restart_goes_back :
    let policy : Policy := { Policy.ofStem "app" with maxSize := 220, maxAgeDays := 7 }
    let record (message : String) : Record :=
      { level := .info, message := message, context := none, requestId := none, trace := none,
        metadata := [], time := ⟨20513 * 86400, 0⟩ }
    let long := record "the first line is a long one, so that the next one rolls"
    let run : List Happening :=
      [.write long, .write (record "second"), .restart, .write (record "3")]
    let final := (run.foldl (happen policy) (none, Folder.empty "logs")).2
    bytesBefore policy final ⟨20513⟩ 0 = lineBytes policy long ++ lineBytes policy (record "3")
      ∧ bytesBefore policy final ⟨20513⟩ 1 = lineBytes policy (record "second")
      ∧ reading policy final ⟨20513⟩ 4 ≠ stored policy (none, Folder.empty "logs") run := by
  decide +kernel

end Gatehouse.RollingFile
