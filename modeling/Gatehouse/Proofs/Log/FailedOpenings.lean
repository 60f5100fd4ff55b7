import Gatehouse.Proofs.Log.RollForward

/-!
# Openings that fail

A write fails just if a file that its search comes to does not open, be it the first one or one
behind files without room. Then the current file stays the current one, and nothing is made or
written: all files that were opened on the way stood there before. What such a write may leave is
the pruning of the openings that succeeded. So where nothing is old enough for that, a run ends as
if the failed writes had never been tried, whatever others do to the folder in between.
-/
namespace Gatehouse

/-! ## The parts of a path -/

theorem not_mem_of_mem_splitOn {ending : Char} {text piece : List Char}
    (member : piece ∈ text.splitOn ending) : ending ∉ piece := by
  induction text generalizing piece with
  | nil =>
    obtain rfl : piece = [] := by simpa using member
    exact List.not_mem_nil
  | cons c rest ih =>
    rw [List.splitOn_cons_eq_if_modifyHead] at member
    split at member
    · rcases List.mem_cons.mp member with rfl | member
      · exact List.not_mem_nil
      · exact ih member
    next other =>
      -- The character goes to the front of the first piece.
      obtain ⟨first, more, cut⟩ := List.exists_cons_of_ne_nil (List.splitOn_ne_nil ending rest)
      rw [cut, List.modifyHead_cons] at member
      rcases List.mem_cons.mp member with rfl | member
      · have front : ending ∉ first := ih (cut ▸ List.mem_cons_self)
        rw [beq_iff_eq, eq_comm] at other
        simp [other, front]
      · exact ih (cut ▸ List.mem_cons_of_mem _ member)

theorem Folder.slash_not_mem_of_mem_parts {path : List Char} {part : String}
    (member : part ∈ Folder.parts path) : '/' ∉ part.toList := by
  obtain ⟨piece, inside, rfl⟩ := List.mem_map.mp member
  rw [String.toList_ofList]
  exact not_mem_of_mem_splitOn inside

namespace RollingFile

/-- Where a search for a file with room ends with an error: the files before open and have none. -/
structure SticksAt (policy : Policy) (folder : Folder) (date : Date) (length start index : Nat)
    (error : FileError) : Prop where
  order : start ≤ index
  passed : ∀ earlier, start ≤ earlier → earlier < index →
    (folder.openToAppend (fileName policy date earlier)).isOk
      ∧ ¬ HasRoom policy folder date length earlier
  refused : folder.openToAppend (fileName policy date index) = .error error

variable {policy : Policy} {folder : Folder}

/-! ## Paths after a pruning -/

@[simp] theorem prune_home (policy : Policy) (today : Date) (folder : Folder) :
    (prune policy today folder).home = folder.home := rfl

@[simp] theorem prune_reach (policy : Policy) (today : Date) (folder : Folder) :
    (prune policy today folder).reach = folder.reach := rfl

/-- A part of a path is not the name of a file that expires, if the stem has a slash in it. -/
theorem isKept_of_slash (slash : '/' ∈ policy.stem.toList) (today : Date) {home place : Place}
    {part : String} (clean : '/' ∉ part.toList) (entry : Entry) :
    isKept policy today home (part :: place, entry) = true := by
  rw [← Bool.not_eq_false, isKept_eq_false_iff]
  rintro ⟨name, _, _, _, same, _, ⟨text, rest, split, _⟩, _⟩
  obtain ⟨rfl, _⟩ := List.cons.inj same
  apply clean
  rw [split]
  exact List.mem_append_left _ slash

section

variable (formed : folder.WellFormed)

include formed

theorem walk_prune (slash : '/' ∈ policy.stem.toList) (today : Date) {parts : List String}
    (clean : ∀ part ∈ parts, '/' ∉ part.toList) (place : Place) :
    (prune policy today folder).walk place parts = folder.walk place parts := by
  induction parts generalizing place with
  | nil => rfl
  | cons part rest ih =>
    rw [List.forall_mem_cons] at clean
    have look : (prune policy today folder).look (part :: place) = folder.look (part :: place) := by
      have kept : (prune policy today folder).find? (part :: place)
          = folder.find? (part :: place) := by
        rw [find?_prune policy today formed]
        cases folder.find? (part :: place) with
        | none => rfl
        | some entry => rw [Option.filter_some, if_pos (isKept_of_slash slash today clean.1 entry)]
      rw [Folder.look, kept, Folder.look]
    simp only [Folder.walk, Folder.enter, look, ih clean.2]

/-- A pruning does not change where the sink's paths lead. -/
theorem locate_prune (today date : Date) (index : Nat) :
    (prune policy today folder).locate (fileName policy date index)
      = folder.locate (fileName policy date index) := by
  by_cases slash : '/' ∈ policy.stem.toList
  · have clean : ∀ part ∈ Folder.parts (fileName policy date index).toList, '/' ∉ part.toList :=
      fun _ => Folder.slash_not_mem_of_mem_parts
    have walk := walk_prune formed slash today clean
    simp only [Folder.locate, walk, prune_home, prune_reach]
  · -- A plain name is found without a look into the folder.
    have parts := Folder.parts_plain (fileName_no_slash policy date index slash)
    rw [String.ofList_toList] at parts
    simp [Folder.locate, parts, Folder.walk, fileName_isName]

variable {date : Date} (representable : date.IsRepresentable) {error : FileError}

include representable

/-- A pruning by the day of a file does not make it open. -/
theorem refused_prune {index : Nat}
    (refused : folder.openToAppend (fileName policy date index) = .error error) :
    (prune policy date folder).openToAppend (fileName policy date index) = .error error := by
  simp only [Folder.openToAppend, Folder.openAt, locate_prune formed] at refused ⊢
  cases located : folder.locate (fileName policy date index) with
  | error other => simpa [located] using refused
  | ok target =>
    cases target with
    | directory => simpa [located] using refused
    | inside place asDirectory =>
      cases asDirectory with
      | true => simpa [located] using refused
      | false =>
        have look : (prune policy date folder).look place = folder.look place := by
          rw [Folder.look, Folder.look, find?_prune_of_located formed representable located]
        rw [located] at refused
        simp only [look] at refused ⊢
        cases held : folder.look place with
        | error other => simpa [held] using refused
        | ok found =>
          rw [held] at refused
          rcases found with _ | (_ | _)
          · cases refused
          · cases refused
          · simpa using refused

/-! ## Searches that fail -/

omit formed representable in
theorem openFile_of_refused {index : Nat}
    (refused : folder.openToAppend (fileName policy date index) = .error error) :
    openFile policy date index folder = (.error error, folder) := by
  simp only [openFile, refused]

theorem search_of_sticks {length start index : Nat}
    (sticks : SticksAt policy folder date length start index error) {budget : Nat}
    (enough : index ≤ start + budget) :
    (search policy date length budget start folder).1 = .error error := by
  -- On the openings to spare, as for a search that ends well.
  induction budget generalizing start with
  | zero =>
    obtain rfl : start = index := Nat.le_antisymm sticks.order enough
    simp only [search, openFile_of_refused sticks.refused]
  | succ budget ih =>
    rcases Nat.eq_or_lt_of_le sticks.order with rfl | later
    · simp only [search, openFile_of_refused sticks.refused]
    · obtain ⟨opens, full⟩ := sticks.passed start (Nat.le_refl start) later
      obtain ⟨file, ok, rfl, rfl, isFull, _⟩ := openFile_of_full formed opens full
      have next : search policy file.date length (budget + 1) file.index folder
          = search policy file.date length budget (file.index + 1)
              (prune policy file.date folder) := by
        rw [search, ok]
        exact (advance_succ policy length budget file _).trans (if_pos isFull)
      have behind : SticksAt policy folder file.date length (file.index + 1) index error :=
        ⟨later, fun earlier order => sticks.passed earlier (by omega), sticks.refused⟩
      rw [next]
      rcases Nat.eq_or_lt_of_le behind.order with here | further
      · rw [here]
        simp only [search, openFile_of_refused (refused_prune formed representable sticks.refused)]
      · have again := openFile_prune formed representable
          (behind.passed _ (Nat.le_refl _) further).1
        have same : search policy file.date length budget (file.index + 1)
              (prune policy file.date folder)
            = search policy file.date length budget (file.index + 1) folder := by
          rw [search, again, search]
        rw [same]
        exact ih behind (by omega)

theorem openWithRoom_of_sticks {length start index : Nat}
    (sticks : SticksAt policy folder date length start index error) :
    (openWithRoom policy date start length folder).1 = .error error := by
  have order := sticks.order
  have bound : index - start ≤ folder.entries.length :=
    passed_le_length formed representable fun earlier from_start before =>
      sticks.passed earlier from_start (by omega)
  rw [openWithRoom_eq]
  exact search_of_sticks formed representable sticks (by omega)

end

theorem opens_or_sticks (policy : Policy) (folder : Folder) (date : Date) (length start : Nat) :
    Opens policy folder date length start
      ∨ ∃ index error, SticksAt policy folder date length start index error := by
  classical
  by_cases opens : Opens policy folder date length start
  · exact .inl opens
  · simp only [Opens, not_forall] at opens
    obtain ⟨number, after, behind, closed⟩ := opens
    -- The first file that a search comes to and that does not open.
    have some : ∃ index, start ≤ index
        ∧ (∀ earlier, start ≤ earlier → earlier < index →
            ¬ HasRoom policy folder date length earlier)
        ∧ ¬ (folder.openToAppend (fileName policy date index)).isOk :=
      ⟨number, after, behind, closed⟩
    obtain ⟨order, full, stuck⟩ := Nat.find_spec some
    cases refused : folder.openToAppend (fileName policy date (Nat.find some)) with
    | ok opened =>
      rw [refused] at stuck
      exact absurd rfl stuck
    | error error =>
      refine .inr ⟨_, error, order, ?_, refused⟩
      intro earlier from_start before
      refine ⟨?_, full earlier from_start before⟩
      by_contra closed
      apply Nat.find_min some before
      exact ⟨from_start, fun other order less => full other order (by omega), closed⟩

/-! ## What a failure leaves -/

/-- A file that opens with something in it stood there, so the opening only prunes. -/
theorem openFile_of_filled {date : Date} {index : Nat} {file : OpenFile} {opened : Folder}
    (ok : openFile policy date index folder = (.ok file, opened)) (filled : 0 < file.size) :
    file.date = date ∧ opened = prune policy date folder := by
  obtain ⟨place, leads⟩ := leadsTo_of_openFile ok
  rw [openFile_of_leadsTo policy leads] at ok
  cases held : folder.find? place with
  | none =>
    rw [held] at ok
    cases ok
    cases filled
  | some entry =>
    rw [held] at ok
    cases entry with
    | directory => cases ok
    | file identity bytes =>
      cases ok
      exact ⟨rfl, rfl⟩

theorem openFile_error {date : Date} {index : Nat} {error : FileError} {left : Folder}
    (failed : openFile policy date index folder = (.error error, left)) : left = folder := by
  unfold openFile at failed
  split at failed
  · cases failed
    rfl
  · cases failed

theorem isFull_of_advance_error {length budget : Nat} {file : OpenFile} {error : FileError}
    {left : Folder} (failed : advance policy length budget file folder = (.error error, left)) :
    isFull policy file.size length = true := by
  by_contra room
  rw [advance_of_not_isFull (Bool.eq_false_iff.mpr room)] at failed
  cases failed

theorem size_pos_of_isFull {size length : Nat} (full : isFull policy size length = true) :
    0 < size := by
  simp only [isFull, Bool.and_eq_true, decide_eq_true_eq] at full
  exact full.1

/-- A search that goes on from an opened file and fails leaves the folder as it was, pruned. -/
theorem advance_error {length budget : Nat} {file : OpenFile} {error : FileError} {left : Folder}
    (pruned : prune policy file.date folder = folder)
    (failed : advance policy length budget file folder = (.error error, left)) : left = folder := by
  induction budget generalizing file with
  | zero => cases failed
  | succ budget ih =>
    have full := isFull_of_advance_error failed
    simp only [advance, full, if_true] at failed
    split at failed
    next stuck =>
      cases failed
      exact openFile_error stuck
    next next opened opening =>
      -- The file that was opened is full too, for otherwise the search would have ended with it.
      have filled := size_pos_of_isFull (isFull_of_advance_error failed)
      obtain ⟨day, after⟩ := openFile_of_filled opening filled
      rw [after, pruned] at failed
      exact ih (by rw [day, pruned]) failed

theorem openWithRoom_error {date : Date} {index length : Nat} {error : FileError} {left : Folder}
    (failed : openWithRoom policy date index length folder = (.error error, left)) :
    left = folder ∨ left = prune policy date folder := by
  unfold openWithRoom at failed
  split at failed
  next stuck =>
    cases failed
    exact .inl (openFile_error stuck)
  next file opened opening =>
    have filled := size_pos_of_isFull (isFull_of_advance_error failed)
    obtain ⟨rfl, rfl⟩ := openFile_of_filled opening filled
    exact .inr (advance_error (prune_prune policy file.date folder) failed)

/-! ## Writes that fail -/

theorem write_error {record : Record} {current after : Option OpenFile} {error : FileError}
    {left : Folder} (failed : write policy record current folder = (.error error, after, left)) :
    after = current
      ∧ (left = folder ∨ left = prune policy (filingDate current record) folder) := by
  simp only [write] at failed
  split at failed
  · split at failed
    · cases failed
    · cases failed
    · split at failed
      next stuck =>
        cases failed
        exact ⟨rfl, openWithRoom_error stuck⟩
      · cases failed
  · cases failed

theorem write_of_sticks (formed : folder.WellFormed) {record : Record}
    {current : Option OpenFile} (representable : (filingDate current record).IsRepresentable)
    (enabled : record.level.isEnabled policy.maxLevel = true) {start index : Nat}
    (rolls : nextIndex? policy current (filingDate current record)
      (lineBytes policy record).length = some start) {error : FileError}
    (sticks : SticksAt policy folder (filingDate current record) (lineBytes policy record).length
      start index error) :
    (write policy record current folder).1 = .error error := by
  have stuck := openWithRoom_of_sticks formed representable sticks
  cases opening : openWithRoom policy (filingDate current record) start
      (lineBytes policy record).length folder with
  | mk result left =>
    rw [opening] at stuck
    subst stuck
    simp only [write, enabled, if_true, rolls, opening]

/-- A write fails just if the search that it depends on gets stuck, and with the error of that. -/
theorem write_fails_iff (formed : folder.WellFormed) {record : Record}
    {current : Option OpenFile} (representable : (filingDate current record).IsRepresentable)
    (error : FileError) :
    (write policy record current folder).1 = .error error
      ↔ record.level.isEnabled policy.maxLevel = true ∧ ∃ start index,
          nextIndex? policy current (filingDate current record)
              (lineBytes policy record).length = some start
            ∧ SticksAt policy folder (filingDate current record)
              (lineBytes policy record).length start index error := by
  constructor
  · intro failed
    cases enabled : record.level.isEnabled policy.maxLevel with
    | false =>
      rw [write_of_not_isEnabled enabled] at failed
      cases failed
    | true =>
      refine ⟨rfl, ?_⟩
      rcases nextIndex?_cases policy folder current record (lineBytes policy record).length with
        ⟨file, rfl, stays, _⟩ | ⟨start, rolls, _⟩
      · rw [write_of_stays enabled stays] at failed
        cases failed
      · rcases opens_or_sticks policy folder (filingDate current record)
            (lineBytes policy record).length start with opens | ⟨index, other, sticks⟩
        · -- A search that does not get stuck ends with a file, so the write succeeds.
          obtain ⟨index, first, bound⟩ := exists_isFirstWithRoom formed representable opens
          obtain ⟨_, file, opened, room, _⟩ := goesTo_opened formed representable opens first bound
          rw [write_of_rolls enabled rolls room] at failed
          cases failed
        · have stuck := write_of_sticks formed representable enabled rolls sticks
          obtain rfl := Except.error.inj (stuck.symm.trans failed)
          exact ⟨start, index, rolls, sticks⟩
  · rintro ⟨enabled, start, index, rolls, sticks⟩
    exact write_of_sticks formed representable enabled rolls sticks

/-! ## Runs -/

/-- What happens to a folder: its sink writes, a new sink takes over, or others change something. -/
inductive Happening
  | write (record : Record)
  | restart
  | others (change : Folder → Folder)

/-- The current file and the folder after something happened. -/
def happen (policy : Policy) (state : Option OpenFile × Folder) :
    Happening → Option OpenFile × Folder
  | .write record => (write policy record state.1 state.2).2
  | .restart => (none, state.2)
  | .others change => (state.1, change state.2)

/-- Whether what happens is a write that fails. -/
def Happening.fails (policy : Policy) (state : Option OpenFile × Folder) : Happening → Bool
  | .write record => !(RollingFile.write policy record state.1 state.2).1.isOk
  | .restart | .others _ => false

/-- What happens from a state on, without the writes that fail. -/
def withoutFailed (policy : Policy) : Option OpenFile × Folder → List Happening → List Happening
  | _, [] => []
  | state, next :: rest =>
    let later := withoutFailed policy (happen policy state next) rest
    if next.fails policy state then later else next :: later

/-- Whether nothing in a folder is old enough to be pruned when a file of a day is opened. -/
def NothingExpires (policy : Policy) (date : Date) (folder : Folder) : Prop :=
  ∀ held ∈ folder.entries, ¬ Expires policy date folder.home held.1 held.2

theorem prune_of_nothingExpires {date : Date} (young : NothingExpires policy date folder) :
    prune policy date folder = folder := by
  have kept : folder.entries.filter (isKept policy date folder.home) = folder.entries := by
    apply List.filter_eq_self.mpr
    intro held member
    rw [← Bool.not_eq_false, isKept_eq_false_iff]
    exact young held member
  rw [prune, kept]

/-- A write that fails where nothing expires changes nothing. -/
theorem happen_of_fails {state : Option OpenFile × Folder} {next : Happening}
    (fails : next.fails policy state = true)
    (young : ∀ record, next = .write record →
      NothingExpires policy (filingDate state.1 record) state.2) :
    happen policy state next = state := by
  cases next with
  | restart | others _ => cases fails
  | write record =>
    cases wrote : write policy record state.1 state.2 with
    | mk result left =>
      cases result with
      | ok => simp [Happening.fails, wrote, Except.isOk, Except.toBool] at fails
      | error error =>
        obtain ⟨same, left_eq⟩ := write_error wrote
        rw [prune_of_nothingExpires (young record rfl), or_self] at left_eq
        simp only [happen, wrote]
        exact Prod.ext same left_eq

/-- A run in which nothing expires where a write fails ends as without those writes. -/
theorem foldl_withoutFailed (happenings : List Happening) (state : Option OpenFile × Folder)
    (young : ∀ before record after, happenings = before ++ .write record :: after →
      let reached := before.foldl (happen policy) state
      (write policy record reached.1 reached.2).1.isOk = false →
      NothingExpires policy (filingDate reached.1 record) reached.2) :
    (withoutFailed policy state happenings).foldl (happen policy) state
      = happenings.foldl (happen policy) state := by
  induction happenings generalizing state with
  | nil => rfl
  | cons next rest ih =>
    have later := ih (happen policy state next) fun before record after split =>
      young (next :: before) record after (by rw [split]; rfl)
    rw [withoutFailed, List.foldl_cons]
    split
    next fails =>
      have unchanged : happen policy state next = state := by
        apply happen_of_fails fails
        rintro record rfl
        apply young [] record rest rfl
        simpa [Happening.fails] using fails
      rw [unchanged] at later ⊢
      exact later
    · rw [List.foldl_cons]
      exact later

/-- A write fails just if a file that it needs does not open, with the error of that, whether it is
the file that the search starts with or one behind full files. Then the current file is the one from
before, and at no place is there anything new: at most, files that an opening on the way found too
old are gone. So a run in which none are too old where a write fails, and in which others do to the
folder what they like, ends with the folder and the current file of the run without those writes,
also if new sinks take over now and then. -/
theorem failed_openings_leave_no_trace (policy : Policy) :
    (∀ folder : Folder, ∀ (current : Option OpenFile) (record : Record),
      let date := filingDate current record
      let length := (lineBytes policy record).length
      let wrote := write policy record current folder
      folder.WellFormed → date.IsRepresentable →
        (∀ error, wrote.1 = .error error ↔ record.level.isEnabled policy.maxLevel = true
          ∧ ∃ start index, nextIndex? policy current date length = some start
              ∧ SticksAt policy folder date length start index error)
        ∧ (wrote.1.isOk = false → wrote.2.1 = current
            ∧ ∀ place, wrote.2.2.find? place = folder.find? place
                ∨ (wrote.2.2.find? place = none ∧ ∃ entry, folder.find? place = some entry
                    ∧ Expires policy date folder.home place entry)))
    ∧ ∀ (happenings : List Happening) (state : Option OpenFile × Folder),
        (∀ before record after, happenings = before ++ .write record :: after →
          let reached := before.foldl (happen policy) state
          (write policy record reached.1 reached.2).1.isOk = false →
            NothingExpires policy (filingDate reached.1 record) reached.2) →
        (withoutFailed policy state happenings).foldl (happen policy) state
          = happenings.foldl (happen policy) state := by
  constructor
  · intro folder current record date length wrote formed representable
    refine ⟨write_fails_iff formed representable, ?_⟩
    intro failed
    cases result : wrote with
    | mk outcome left =>
      cases outcome with
      | ok => simp [result, Except.isOk, Except.toBool] at failed
      | error error =>
        obtain ⟨same, unchanged | pruned⟩ := write_error result
        · exact ⟨same, fun place => .inl (by rw [unchanged])⟩
        · refine ⟨same, fun place => ?_⟩
          simp only [pruned]
          rw [find?_prune policy _ formed]
          exact filter_isKept_cases policy date folder place
  · intro happenings state young
    exact foldl_withoutFailed happenings state young

/-- A directory in the way of the second file of the day, while the first one is full: the search
for room has pruned the folder by the time it is stopped. -/
theorem failed_openings_leave_no_trace_at_directory :
    let policy : Policy := { Policy.ofStem "app" with maxSize := 200, maxAgeDays := 7 }
    let full : List UInt8 := List.replicate 150 120
    let block (folder : Folder) : Folder :=
      ((folder.makeDirectory "app-1970-01-10.1.log").toOption).getD folder
    let young := Folder.ofFiles "logs" [("app-1970-01-10.log", full)]
    let old := block (Folder.ofFiles "logs" [("app-1970-01-10.log", full),
      ("app-1970-01-01.log", full)])
    let record : Record :=
      { level := .info, message := "m", context := none, requestId := none, trace := none,
        metadata := [], time := ⟨9 * 86400, 0⟩ }
    let run : List Happening := [.others block, .write record]
    (∃ left, write policy record none old = (.error .isDirectory, none, left)
        ∧ (old.fileAt? "app-1970-01-01.log").isSome ∧ left.fileAt? "app-1970-01-01.log" = none
        ∧ ∀ place, left.find? place = old.find? place ∨ left.find? place = none)
      ∧ (withoutFailed policy (none, young) run).length = 1
      ∧ (withoutFailed policy (none, young) run).foldl (happen policy) (none, young)
        = run.foldl (happen policy) (none, young) := by
  intro policy full block young old record run
  have formed : old.WellFormed := by
    have made : (Folder.ofFiles "logs" [("app-1970-01-10.log", full),
        ("app-1970-01-01.log", full)]).WellFormed := Folder.wellFormed_ofFiles "logs" (by decide)
    obtain ⟨after, ok⟩ : ∃ after, Folder.makeDirectory (Folder.ofFiles "logs"
        [("app-1970-01-10.log", full), ("app-1970-01-01.log", full)])
          "app-1970-01-10.1.log" = .ok after := ⟨_, rfl⟩
    have blocked : old = after := by simp [old, block, ok, Except.toOption]
    rw [blocked]
    exact made.makeDirectory ok
  have failed : (write policy record none old).1 = .error .isDirectory := by decide +kernel
  have gone : (write policy record none old).2.2.fileAt? "app-1970-01-01.log" = none := by
    decide +kernel
  have kept : (block young).entries.all (isKept policy ⟨9⟩ (block young).home) = true := by
    decide +kernel
  obtain ⟨single, runs⟩ := failed_openings_leave_no_trace policy
  constructor
  · obtain ⟨_, leaves⟩ := single old none record formed (by decide)
    obtain ⟨same, places⟩ := leaves (by rw [failed]; rfl)
    have stood : (old.fileAt? "app-1970-01-01.log").isSome := by decide +kernel
    generalize write policy record none old = wrote at failed gone same places ⊢
    obtain ⟨_, _, left⟩ := wrote
    obtain rfl := failed
    obtain rfl := same
    refine ⟨left, rfl, stood, gone, ?_⟩
    intro place
    rcases places place with stays | ⟨taken, _⟩
    · exact .inl stays
    · exact .inr taken
  · refine ⟨by decide +kernel, runs run (none, young) ?_⟩
    intro before last after split reached _
    -- The run has one write, and before it the directory was made.
    obtain ⟨rfl, rfl⟩ : before = [.others block] ∧ last = record := by
      match before with
      | [] => simp [run] at split
      | [first] => simp_all [run]
      | _ :: _ :: _ => simp [run] at split
    intro held member expires
    have dropped : isKept policy ⟨9⟩ (block young).home held = false :=
      isKept_eq_false_iff.mpr expires
    rw [List.all_eq_true.mp kept held member] at dropped
    cases dropped

end RollingFile

end Gatehouse
