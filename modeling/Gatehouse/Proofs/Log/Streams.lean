import Gatehouse.Log.Setup
import Gatehouse.Proofs.Log.LineStream
import Gatehouse.Proofs.Log.Noninterference
import Gatehouse.Proofs.Log.Separation
import Gatehouse.Proofs.Log.SinkFiles

/-!
# The two streams of a service

A service with file output keeps two rolling logs in one folder, one of all records and one of
errors. Neither touches the other's files, so each holds its own volumes throughout a run. Both file
a record under the latest day of their own so far, and they roll at different places; as long as
nothing expires, the files of errors hold just the error lines of the files of all records.
-/
namespace Gatehouse

/-! ## The level that a line tells -/

theorem Timestamp.quote_not_mem_printMachine (time : Timestamp) : '"' ∉ time.printMachine := by
  have digits : ∀ width n, '"' ∉ Date.padded width n := fun width n quote =>
    absurd (Date.isDigit_of_mem_padded quote) (by decide)
  have date : '"' ∉ time.date.print := fun quote =>
    absurd (Date.of_mem_print quote) (by decide)
  simp [printMachine, printClock, printMillis, digits, date]

theorem Json.quote_of_mem_escapedChar {c : Char} (member : '"' ∈ escapedChar c) : c = '"' := by
  have digits : ∀ n < 16, '"' ≠ Hex.digit n := by decide
  simp only [escapedChar] at member
  split_ifs at member with quote backslash newline return_ tab backspace feed control
  · exact quote
  iterate 6
    · exact absurd member (by decide)
  · have high := digits (c.toNat / 16) (by omega)
    have low := digits (c.toNat % 16) (by omega)
    simp [high, low] at member
  · exact (List.mem_singleton.mp member).symm

namespace Record

/-- Whether a line tells an error: what stands behind its timestamp does. -/
def tellsError (line : List UInt8) : Bool :=
  let behind := (line.drop (bytesOf "\x7b\"timestamp\":\"").length).dropWhile (· != 34)
  (bytesOf "\",\"level\":\"error\"").isPrefixOf behind

/-- The lines of a text that tell an error. -/
def errorLines (text : List UInt8) : List UInt8 :=
  ((text.splitOn 10).filter tellsError).flatMap (· ++ [10])

theorem jsonLine_eq (record : Record) (app : String) : ∃ rest,
    record.jsonLine app = "\x7b\"timestamp\":\"".toList
      ++ (Json.escaped record.time.printMachine
        ++ ("\",\"level\":".toList ++ Json.printText record.level.name ++ rest)) := by
  refine ⟨Json.printFields ((record.fields app).drop 2), ?_⟩
  have open_ : Json.printText "timestamp" = "\"timestamp\"".toList := by decide
  have level : Json.printText "level" = "\"level\"".toList := by decide
  have time : Json.printText (String.ofList record.time.printMachine)
      = '"' :: Json.escaped record.time.printMachine ++ ['"'] := by
    rw [Json.printText, String.toList_ofList]
  simp only [jsonLine, fields, List.cons_append, List.drop_succ_cons, List.drop_zero, Json.print,
    Json.printFields, open_, level, time]
  simp

/-- A line tells its record's level. -/
theorem tellsError_jsonLine (record : Record) (app : String) :
    tellsError (Utf8.encode (record.jsonLine app)) = record.level.isEnabled .error := by
  obtain ⟨rest, shape⟩ := record.jsonLine_eq app
  have unquoted : ∀ byte ∈ Utf8.encode (Json.escaped record.time.printMachine),
      (byte != 34) = true := by
    intro byte member
    refine bne_iff_ne.mpr ?_
    rintro rfl
    have quote : '"' ∈ Json.escaped record.time.printMachine :=
      Utf8.mem_of_mem_encode (by decide) member
    obtain ⟨c, inside, here⟩ := List.mem_flatMap.mp quote
    exact record.time.quote_not_mem_printMachine (Json.quote_of_mem_escapedChar here ▸ inside)
  simp only [tellsError, shape, bytesOf, Utf8.encode_append, List.drop_left,
    List.dropWhile_append_of_pos unquoted]
  cases record.level <;> rfl

end Record

namespace RollingFile

theorem newline_not_mem_jsonLine (record : Record) (app : String) :
    10 ∉ Utf8.encode (record.jsonLine app) := fun member =>
  Json.newline_not_mem_print _ (Utf8.mem_of_mem_encode (by decide) member)

/-- The error lines among the lines of records are those of the errors. -/
theorem errorLines_lines (policy : Policy) (records : List Record) :
    Record.errorLines (records.flatMap (lineBytes policy))
      = (records.filter (·.level.isEnabled .error)).flatMap (lineBytes policy) := by
  have ended : lineBytes policy
      = fun record => Utf8.encode (record.jsonLine policy.app) ++ [10] := by
    funext record
    rw [lineBytes, Utf8.encode_append]
    rfl
  have single : ∀ line ∈ records.map fun record => Utf8.encode (record.jsonLine policy.app),
      (10 : UInt8) ∉ line := by
    intro line member
    obtain ⟨record, _, rfl⟩ := List.mem_map.mp member
    exact newline_not_mem_jsonLine record policy.app
  have cut := splitOn_lines single
  have last : Record.tellsError [] = false := rfl
  rw [List.flatMap_map] at cut
  rw [Record.errorLines, ended, cut, List.filter_append, List.filter_cons]
  simp only [last, List.filter_map, Function.comp_def, Record.tellsError_jsonLine,
    Bool.false_eq_true, if_false, List.filter_nil, List.append_nil, List.flatMap_map]

/-! ## Volumes of one stream -/

/-- The volumes that a sink has for the records that were offered to it. -/
def shelves (policy : Policy) (records : List Record) : List Volume :=
  (records.filter (·.level.isEnabled policy.maxLevel)).foldl (place policy) []

variable {policy : Policy}

theorem shelved_shelves (policy : Policy) {records : List Record}
    (dates : ∀ record ∈ records, record.time.date.IsRepresentable) :
    Shelved policy (records.filter (·.level.isEnabled policy.maxLevel)) (shelves policy records) :=
  shelved_foldl policy _ fun record member => dates record (List.mem_filter.mp member).1

/-- A sink that holds the volumes of records holds those of one more once it took it. -/
theorem Holds.offered (plain : '/' ∉ policy.stem.toList) {records : List Record} {record : Record}
    (dates : ∀ other ∈ records ++ [record], other.time.date.IsRepresentable)
    {current after : Option OpenFile} {folder written : Folder}
    (holds : Holds policy (shelves policy records) current folder)
    (ok : RollingFile.write policy record current folder = (.ok (), after, written)) :
    Holds policy (shelves policy (records ++ [record])) after written := by
  -- What the policy does not enable is no part of the volumes, and it is not written.
  cases enabled : record.level.isEnabled policy.maxLevel with
  | false =>
    rw [write_of_not_isEnabled enabled] at ok
    cases ok
    simpa [shelves, List.filter_append, enabled] using holds
  | true =>
    have ordered := (shelved_shelves policy fun other member =>
      dates other (List.mem_append_left _ member)).ordered
    have next := holds.write plain ordered enabled (dates record (by simp)) ok
    simpa [shelves, List.filter_append, enabled] using next

/-- The last day that records are filed under is the own day of one of them. -/
theorem exists_newest {records : List Record} :
    ∀ date ∈ newestOf (filed records), ∃ record ∈ records, record.time.date = date := by
  -- From the last record on: the day either is its own or was the last one before it.
  induction records using List.reverseRecOn with
  | nil => intro date member; cases member
  | append_singleton records record ih =>
    intro date member
    rw [filed_append, newestOf_append] at member
    obtain rfl := Option.some.inj member
    cases last : newestOf (filed records) with
    | none => exact ⟨record, by simp, rfl⟩
    | some date =>
      rcases le_total date.day record.time.date.day with later | earlier
      · refine ⟨record, by simp, Date.eq_of_day_eq ?_⟩
        simp only [stamp, Date.later_day]
        omega
      · obtain ⟨other, found, same⟩ := ih date last
        refine ⟨other, by simp [found], Date.eq_of_day_eq ?_⟩
        simp only [stamp, Date.later_day, same]
        omega

/-- Nothing expires among records whose days lie within the window of any of them. -/
theorem retained_of_within {records : List Record}
    (within : ∀ record ∈ records, ∀ other ∈ records,
      record.time.date.day - other.time.date.day ≤ policy.maxAgeDays) :
    retained policy (filed records) = filed records := by
  apply List.filter_eq_self.mpr
  intro filing member
  rw [Option.all_eq_true]
  intro newest last
  obtain ⟨latest, found, rfl⟩ := exists_newest newest last
  have own : filing.1 ∈ records := by
    rw [← filed_map_fst records]
    exact List.mem_map.mpr ⟨filing, member, rfl⟩
  -- A record is filed no earlier than under its own day, and that lies in the window.
  have distance := within latest found filing.1 own
  have late := date_le_filed member
  rw [isRetained_iff]
  intro cutoff window
  simp only [Date.minusDays, Option.mem_def, Option.ite_none_right_eq_some, Option.some.injEq]
    at window
  obtain ⟨_, rfl⟩ := window
  simp only [Date.lt_iff_day] at late ⊢
  omega

/-- The files of a sink hold the lines of its records, as long as nothing expires. -/
theorem Holds.bytes_eq {records : List Record}
    (dates : ∀ record ∈ records, record.time.date.IsRepresentable)
    (within : ∀ record ∈ records, ∀ other ∈ records,
      record.time.date.day - other.time.date.day ≤ policy.maxAgeDays)
    {current : Option OpenFile} {folder : Folder}
    (holds : Holds policy (shelves policy records) current folder) :
    (sinkFiles policy folder).flatMap (·.2)
      = (records.filter (·.level.isEnabled policy.maxLevel)).flatMap (lineBytes policy) := by
  let enabled := records.filter (·.level.isEnabled policy.maxLevel)
  have shelved := shelved_shelves policy dates
  have whole : retained policy (filed enabled) = filed enabled :=
    retained_of_within fun record member other found =>
      within record (List.mem_filter.mp member).1 other (List.mem_filter.mp found).1
  calc (sinkFiles policy folder).flatMap (·.2)
      = (filed enabled).flatMap fun filing => lineBytes policy filing.1 := by
        rw [holds.sinkFiles_eq shelved.ordered, flatMap_filings, shelved.filings, whole]
    _ = enabled.flatMap (lineBytes policy) := by
        rw [← List.flatMap_map, filed_map_fst]

end RollingFile

/-! ## Runs without failures -/

namespace Logger

variable {World Failure : Type}

/-- Whether every sink takes a record that is offered to them in turn. -/
def takes : List (Sink World Failure) → Record → World → Bool
  | [], _, _ => true
  | sink :: rest, record, world =>
    let (result, world) := sink.write record world
    result.isOk && takes rest record world

/-- Whether every sink takes every record of a run of calls. -/
def takesAll (logger : Logger World Failure) : List LogCall → World → Bool
  | [], _ => true
  | call :: rest, world =>
    (!logger.isEnabled call.note.level || takes logger.sinks call.record world)
      && logger.takesAll rest (logger.perform world call)

/-- The records of the calls that a logger does not drop. -/
def emitted (logger : Logger World Failure) (calls : List LogCall) : List Record :=
  (calls.filter fun call => logger.isEnabled call.note.level).map LogCall.record

theorem takesAll_append (logger : Logger World Failure) (calls more : List LogCall)
    (world : World) :
    logger.takesAll (calls ++ more) world
      = (logger.takesAll calls world && logger.takesAll more (logger.logAll calls world)) := by
  induction calls generalizing world with
  | nil => simp [takesAll, logAll]
  | cons call rest ih =>
    simp only [List.cons_append, takesAll, ih, Bool.and_assoc]
    rfl

end Logger

/-! ## Both streams -/

namespace Setup

open RollingFile

/-- The outputs once the console and the files of all records were offered a record. -/
def afterMain (settings : LogSettings) (record : Record) (outputs : Outputs) : Outputs :=
  ((mainSink (mainPolicy settings)).write record
    ((consoleSink (console settings)).write record outputs).2).2

/-- The outputs once the files of errors were offered it, too. -/
def afterErrors (settings : LogSettings) (record : Record) (outputs : Outputs) : Outputs :=
  ((errorSink (errorPolicy settings)).write record (afterMain settings record outputs)).2

theorem afterMain_eq (settings : LogSettings) (record : Record) (outputs : Outputs) :
    afterMain settings record outputs
      = let written := RollingFile.write (mainPolicy settings) record outputs.main outputs.folder
        { terminal := (console settings).write record outputs.terminal
          folder := written.2.2, main := written.2.1, errors := outputs.errors } := by
  simp only [afterMain, mainSink, consoleSink]

theorem afterErrors_eq (settings : LogSettings) (record : Record) (outputs : Outputs) :
    afterErrors settings record outputs
      = let before := afterMain settings record outputs
        let written := RollingFile.write (errorPolicy settings) record before.errors before.folder
        { before with folder := written.2.2, errors := written.2.1 } := by
  simp only [afterErrors, errorSink]

theorem errorPolicy_stem (settings : LogSettings) :
    (errorPolicy settings).stem = (mainPolicy settings).stem ++ "-error" := rfl

theorem errorPolicy_plain {settings : LogSettings}
    (plain : '/' ∉ (mainPolicy settings).stem.toList) :
    '/' ∉ (errorPolicy settings).stem.toList := by
  have suffix : '/' ∉ "-error".toList := by decide
  rw [errorPolicy_stem, String.toList_append, List.mem_append]
  rintro (name | ending)
  · exact plain name
  · exact suffix ending

/-- Each file sink holds the volumes of the records that it was offered. -/
structure Keeps (settings : LogSettings) (all errors : List Record) (outputs : Outputs) :
    Prop where
  main : Holds (mainPolicy settings) (shelves (mainPolicy settings) all) outputs.main
    outputs.folder
  errors : Holds (errorPolicy settings) (shelves (errorPolicy settings) errors) outputs.errors
    outputs.folder

section

variable {settings : LogSettings} (plain : '/' ∉ (mainPolicy settings).stem.toList)
  {records : List Record} {record : Record} {outputs : Outputs}
  (dates : ∀ other ∈ records ++ [record], other.time.date.IsRepresentable)

include plain dates

/-- The files of all records grow and the files of errors stay. -/
theorem Keeps.main_write (keeps : Keeps settings records records outputs)
    (ok : (RollingFile.write (mainPolicy settings) record outputs.main outputs.folder).1 = .ok ()) :
    SameFiles (errorPolicy settings) outputs.folder (afterMain settings record outputs).folder
      ∧ Keeps settings (records ++ [record]) records (afterMain settings record outputs) := by
  have spared : SameFiles (errorPolicy settings) outputs.folder
      (afterMain settings record outputs).folder := by
    intro date index
    have foreign := isForeign_suffixed (errorPolicy_stem settings) date index
    rw [afterMain_eq]
    exact foreign.write plain keeps.main.formed (keeps.main.apart foreign) record
  have main := keeps.main.offered plain dates (Prod.ext ok rfl)
  rw [afterMain_eq] at spared ⊢
  exact ⟨spared, main, keeps.errors.congr main.formed spared⟩

/-- The files of errors may grow and the files of all records stay. -/
theorem Keeps.errors_write
    (keeps : Keeps settings (records ++ [record]) records (afterMain settings record outputs))
    (ok : (RollingFile.write (errorPolicy settings) record
      (afterMain settings record outputs).errors (afterMain settings record outputs).folder).1
        = .ok ()) :
    SameFiles (mainPolicy settings) (afterMain settings record outputs).folder
        (afterErrors settings record outputs).folder
      ∧ Keeps settings (records ++ [record]) (records ++ [record])
          (afterErrors settings record outputs) := by
  have spared : SameFiles (mainPolicy settings) (afterMain settings record outputs).folder
      (afterErrors settings record outputs).folder := by
    intro date index
    have foreign := isForeign_unsuffixed (errorPolicy_stem settings) date index
    rw [afterErrors_eq]
    exact foreign.write (errorPolicy_plain plain) keeps.errors.formed
      (keeps.errors.apart foreign) record
  have errors := keeps.errors.offered (errorPolicy_plain plain) dates (Prod.ext ok rfl)
  rw [afterErrors_eq] at spared ⊢
  exact ⟨spared, keeps.main.congr errors.formed spared, errors⟩

end

section

variable {settings : LogSettings} (toFile : settings.toFile = true)

include toFile

theorem offer_eq (record : Record) (outputs : Outputs) :
    Logger.offer (logger settings).sinks record outputs = afterErrors settings record outputs := by
  simp only [logger, toFile, if_true, Logger.offer, List.foldl_cons, List.foldl_nil, afterErrors,
    afterMain]

theorem perform_of_enabled {call : LogCall}
    (enabled : (logger settings).isEnabled call.note.level = true) (outputs : Outputs) :
    (logger settings).perform outputs call = afterErrors settings call.record outputs := by
  rw [Logger.perform_eq_ite, enabled, if_pos rfl, offer_eq toFile]

/-- A record that every sink takes is taken by both file sinks. -/
theorem written_of_takes {record : Record} {outputs : Outputs}
    (taken : Logger.takes (logger settings).sinks record outputs = true) :
    let before := afterMain settings record outputs
    (RollingFile.write (mainPolicy settings) record outputs.main outputs.folder).1 = .ok ()
      ∧ (RollingFile.write (errorPolicy settings) record before.errors before.folder).1
        = .ok () := by
  have ok : ∀ result : Except FileError Unit, result.isOk = true → result = .ok () := by
    intro result good
    cases result with
    | error error => cases good
    | ok => rfl
  simp only [logger, toFile, if_true, Logger.takes, consoleSink, mainSink, errorSink,
    Bool.and_true, Bool.and_eq_true] at taken
  obtain ⟨_, main, errors⟩ := taken
  rw [afterMain_eq]
  exact ⟨ok _ main, ok _ errors⟩

end

section

variable {settings : LogSettings} (toFile : settings.toFile = true)
  (plain : '/' ∉ (mainPolicy settings).stem.toList)

include toFile plain

/-- A record that every sink takes grows both streams apart from each other. -/
theorem Keeps.offer {records : List Record} {record : Record} {outputs : Outputs}
    (dates : ∀ other ∈ records ++ [record], other.time.date.IsRepresentable)
    (keeps : Keeps settings records records outputs)
    (taken : Logger.takes (logger settings).sinks record outputs = true) :
    SameFiles (errorPolicy settings) outputs.folder (afterMain settings record outputs).folder
      ∧ SameFiles (mainPolicy settings) (afterMain settings record outputs).folder
          (afterErrors settings record outputs).folder
      ∧ Keeps settings (records ++ [record]) (records ++ [record])
          (afterErrors settings record outputs) := by
  obtain ⟨mainOk, errorsOk⟩ := written_of_takes toFile taken
  obtain ⟨spared, half⟩ := keeps.main_write plain dates mainOk
  exact ⟨spared, half.errors_write plain dates errorsOk⟩

theorem Keeps.logAll {records : List Record} {outputs : Outputs}
    (keeps : Keeps settings records records outputs) {calls : List LogCall}
    (dates : ∀ record ∈ records ++ (logger settings).emitted calls,
      record.time.date.IsRepresentable)
    (taken : (logger settings).takesAll calls outputs = true) :
    Keeps settings (records ++ (logger settings).emitted calls)
      (records ++ (logger settings).emitted calls) ((logger settings).logAll calls outputs) := by
  -- On the calls to come; the records so far are in the volumes already.
  induction calls generalizing records outputs with
  | nil => simpa [Logger.emitted, Logger.logAll] using keeps
  | cons call rest ih =>
    rw [Logger.takesAll, Bool.and_eq_true] at taken
    obtain ⟨first, later⟩ := taken
    cases enabled : (logger settings).isEnabled call.note.level with
    | false =>
      have step : (logger settings).perform outputs call = outputs := by
        rw [Logger.perform_eq_ite, enabled]
        rfl
      have dropped : (logger settings).emitted (call :: rest) = (logger settings).emitted rest := by
        simp [Logger.emitted, enabled]
      rw [step] at later
      rw [dropped] at dates ⊢
      simpa only [Logger.logAll, List.foldl_cons, step] using ih keeps dates later
    | true =>
      have step := perform_of_enabled toFile enabled outputs
      have kept : (logger settings).emitted (call :: rest)
          = call.record :: (logger settings).emitted rest := by
        simp [Logger.emitted, enabled]
      rw [enabled, Bool.not_true, Bool.false_or] at first
      rw [kept, List.append_cons] at dates ⊢
      rw [step] at later
      have reached := keeps.offer toFile plain
        (fun other member => dates other (List.mem_append_left _ member)) first
      simpa only [Logger.logAll, List.foldl_cons, step] using ih reached.2.2 dates later

end

/-- A service with file output whose sinks fail at nothing keeps its two streams apart: no name is
given in both, neither stream takes a file of the other for an old one of its own, and whatever is
written to one leaves the files of the other as they are. While no record is older than files are
kept, the files of errors, one after the other, are the error lines of the files of all records. -/
theorem streams_stay_apart_and_agree (settings : LogSettings) (toFile : settings.toFile = true)
    (plain : '/' ∉ settings.app.toList) (folder : Folder) (formed : folder.WellFormed)
    (empty : folder.files = []) (calls : List LogCall)
    (dates : ∀ call ∈ calls, call.now.date.IsRepresentable)
    (taken : (logger settings).takesAll calls (blank folder) = true) :
    let main := mainPolicy settings
    let errors := errorPolicy settings
    let service := logger settings
    let records := service.emitted calls
    let final := (service.logAll calls (blank folder)).folder
    (∀ date day index number, fileName main date index ≠ fileName errors day number)
      ∧ (∀ today date index, isExpired main today (fileName errors date index) = false
          ∧ isExpired errors today (fileName main date index) = false)
      ∧ (∀ before call after, calls = before ++ call :: after →
          service.isEnabled call.note.level = true →
          let outputs := service.logAll before (blank folder)
          SameFiles errors outputs.folder (afterMain settings call.record outputs).folder
            ∧ SameFiles main (afterMain settings call.record outputs).folder
                (afterErrors settings call.record outputs).folder
            ∧ service.logAll (before ++ [call]) (blank folder)
              = afterErrors settings call.record outputs)
      ∧ ((∀ record ∈ records, ∀ other ∈ records,
            record.time.date.day - other.time.date.day ≤ settings.maxFileAgeDays) →
          (sinkFiles main final).flatMap (·.2) = records.flatMap (lineBytes main)
            ∧ (sinkFiles errors final).flatMap (·.2)
              = Record.errorLines ((sinkFiles main final).flatMap (·.2))) := by
  intro main errors service records final
  have start : Keeps settings [] [] (blank folder) := by
    have clean : ∀ policy, sinkFiles policy folder = [] := fun policy => by
      simp [sinkFiles, empty]
    exact ⟨holds_nil formed (clean main), holds_nil formed (clean errors)⟩
  have representable : ∀ record ∈ records, record.time.date.IsRepresentable := by
    intro record member
    obtain ⟨call, made, rfl⟩ := List.mem_map.mp member
    exact dates call (List.mem_filter.mp made).1
  refine ⟨?_, ?_, ?_, ?_⟩
  · intro date day index number
    exact fileName_ne_suffixed (errorPolicy_stem settings) date day index number
  · intro today date index
    exact ⟨(isForeign_suffixed (errorPolicy_stem settings) date index).isExpired today,
      (isForeign_unsuffixed (errorPolicy_stem settings) date index).isExpired today⟩
  · rintro before call after rfl enabled outputs
    have split : records = (service.emitted before ++ [call.record]) ++ service.emitted after := by
      simp [records, Logger.emitted, enabled]
    rw [split] at representable
    rw [Logger.takesAll_append, Logger.takesAll, enabled, Bool.not_true, Bool.false_or,
      Bool.and_eq_true, Bool.and_eq_true] at taken
    obtain ⟨earlier, now, _⟩ := taken
    have reached : ∀ record ∈ service.emitted before ++ [call.record],
        record.time.date.IsRepresentable := fun record member =>
      representable record (List.mem_append_left _ member)
    have keeps := start.logAll toFile plain
      (fun record member => reached record (List.mem_append_left _ member)) earlier
    obtain ⟨spared, kept, _⟩ := keeps.offer toFile plain reached now
    refine ⟨spared, kept, ?_⟩
    rw [Logger.logAll, List.foldl_append]
    exact perform_of_enabled toFile enabled outputs
  · intro within
    have keeps := start.logAll toFile plain representable taken
    have all : records.filter (·.level.isEnabled main.maxLevel) = records := by
      refine List.filter_eq_self.mpr fun record _ => ?_
      cases record.level <;> rfl
    have mainBytes : (sinkFiles main final).flatMap (·.2) = records.flatMap (lineBytes main) := by
      rw [← all]
      exact keeps.main.bytes_eq representable within
    refine ⟨mainBytes, ?_⟩
    rw [mainBytes, errorLines_lines]
    exact keeps.errors.bytes_eq representable within

/-- Six calls over four days, one of them below the minimum and an error that comes late, with files
of 200 bytes that are kept for three days. -/
theorem streams_stay_apart_and_agree_over_days :
    let settings : LogSettings :=
      { LogSettings.usual with
        toFile := true, app := "gw", maxFileSize := 200, maxFileAgeDays := 3 }
    let call (level : Level) (day : Int) : LogCall :=
      ⟨some "auth", none, ⟨day * 86400, 0⟩, ⟨level, "m\n", none, none⟩⟩
    let calls := [call .info 1, call .error 2, call .debug 9, call .error 0, call .warn 3,
      call .error 3]
    let final := ((logger settings).logAll calls (blank (Folder.empty "logs"))).folder
    let shown := (sinkFiles (mainPolicy settings) final).flatMap (·.2)
    shown = [call .info 1, call .error 2, call .error 0, call .warn 3, call .error 3].flatMap
        (fun call => lineBytes (mainPolicy settings) call.record)
      ∧ (sinkFiles (errorPolicy settings) final).flatMap (·.2) = Record.errorLines shown := by
  intro settings call calls final shown
  have emitted : (logger settings).emitted calls
      = [call .info 1, call .error 2, call .error 0, call .warn 3, call .error 3].map
          LogCall.record := rfl
  have agree := (streams_stay_apart_and_agree settings rfl (by decide) (Folder.empty "logs")
    (Folder.wellFormed_empty "logs") rfl calls (by decide +kernel) (by decide +kernel)).2.2.2
  simp only [emitted] at agree
  obtain ⟨all, errors⟩ := agree (by decide +kernel)
  refine ⟨?_, errors⟩
  rw [← List.flatMap_map]
  exact all

end Setup

end Gatehouse
