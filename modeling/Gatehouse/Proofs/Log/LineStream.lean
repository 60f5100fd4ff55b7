import Gatehouse.Log.Console
import Gatehouse.Proofs.Json.RoundTrip

/-!
# Streams of JSON lines

A console that writes JSON puts one line on its stream for each record, whatever the record holds:
line ends in texts and keys are escaped, so cutting the stream at its line ends gives back the
lines. Each line is read as the object that tells its record, with just the fields that the record
has.
-/
namespace Gatehouse

/-! ## Printed JSON is a single line -/

namespace Json

theorem newline_not_mem_digits (n : Nat) : '\n' ∉ Nat.toDigits 10 n := fun member =>
  absurd (Nat.isDigit_of_mem_toDigits (by decide) (by decide) member) (by decide)

theorem newline_not_mem_escapedChar (c : Char) : '\n' ∉ escapedChar c := by
  have digits : ∀ n < 16, Hex.digit n ≠ '\n' := by decide
  simp only [escapedChar]
  split_ifs with quote backslash newline return_ tab backspace feed control
  iterate 7
    · decide
  · have high := digits (c.toNat / 16) (by omega)
    have low := digits (c.toNat % 16) (by omega)
    simp [high.symm, low.symm]
  · simpa using Ne.symm newline

theorem newline_not_mem_printText (text : String) : '\n' ∉ printText text := by
  have inside : '\n' ∉ escaped text.toList := by
    intro member
    obtain ⟨c, _, here⟩ := List.mem_flatMap.mp member
    exact newline_not_mem_escapedChar c here
  simp [printText, inside]

theorem newline_not_mem_printInt (value : Int) : '\n' ∉ printInt value := by
  simp only [printInt]
  split <;> simp [newline_not_mem_digits]

theorem newline_not_mem_layOut (number : Shortest.Decimal) : '\n' ∉ Shortest.layOut number := by
  have digits := newline_not_mem_digits number.count
  have exponent : ∀ power, '\n' ∉ Shortest.exponentText power := by
    intro power
    simp only [Shortest.exponentText]
    split <;> simp [newline_not_mem_digits]
  simp only [Shortest.layOut]
  generalize Nat.toDigits 10 number.count = text at *
  split
  · split
    · simp_all
    · simp_all
  · split
    · simp [digits, Shortest.zeros]
    · split
      · have front : ∀ n, '\n' ∉ text.take n := fun _ member => digits (List.mem_of_mem_take member)
        have back : ∀ n, '\n' ∉ text.drop n := fun _ member => digits (List.mem_of_mem_drop member)
        simp [front, back]
      · simp [digits, Shortest.zeros]

theorem newline_not_mem_float (value : Binary64) : '\n' ∉ Shortest.text value := by
  simp only [Shortest.text]
  split <;> split <;> simp [newline_not_mem_layOut]

theorem newline_not_mem_printItems {items : List Json} (none : ∀ item ∈ items, '\n' ∉ item.print) :
    '\n' ∉ printItems items := by
  induction items with
  | nil => decide
  | cons item rest ih =>
    rw [List.forall_mem_cons] at none
    simp [printItems, none.1, ih none.2]

theorem newline_not_mem_printFields {fields : Fields}
    (none : ∀ field ∈ fields, '\n' ∉ field.2.print) : '\n' ∉ printFields fields := by
  induction fields with
  | nil => decide
  | cons field rest ih =>
    rw [List.forall_mem_cons] at none
    simp [printFields, newline_not_mem_printText, none.1, ih none.2]

/-- Whatever its texts and keys hold, a value is printed on one line. -/
theorem newline_not_mem_print (value : Json) : '\n' ∉ value.print := by
  induction value using Json.induction with
  | null => decide
  | bool value => cases value <;> decide
  | integer value => exact newline_not_mem_printInt value
  | float value => exact newline_not_mem_float value
  | string text => exact newline_not_mem_printText text
  | array items ih =>
    cases items with
    | nil => decide
    | cons item rest =>
      rw [List.forall_mem_cons] at ih
      simp [print, ih.1, newline_not_mem_printItems ih.2]
  | object fields ih =>
    cases fields with
    | nil => decide
    | cons field rest =>
      rw [List.forall_mem_cons] at ih
      simp [print, newline_not_mem_printText, ih.1, newline_not_mem_printFields ih.2]

end Json

/-! ## What a line tells -/

namespace Record

/-- An object that tells a record of an application: it has the fields that the record has, each
with the record's value, and no others. An empty text is there, and empty metadata are not. -/
structure IsToldBy (record : Record) (app : String) (object : Json.Fields) : Prop where
  timestamp : object.find? "timestamp" = some (.string (String.ofList record.time.printMachine))
  level : object.find? "level" = some (.string record.level.name)
  app : object.find? "app" = some (.string app)
  message : object.find? "message" = some (.string record.message)
  context : object.find? "context" = record.context.map .string
  requestId : object.find? "requestId" = record.requestId.map .string
  trace : object.find? "trace" = record.trace.map .string
  metadata : object.find? "metadata"
    = if record.metadata = [] then none else some (.object record.metadata)
  keys : ∀ key, (object.find? key).isSome →
    key ∈ ["timestamp", "level", "app", "context", "requestId", "message", "trace", "metadata"]

/-- Metadata that a line carries whole: no binary64 number stands in them, and they nest less deep
than the reader of a line goes, so a hundred levels fit. -/
structure IsLossless (record : Record) : Prop where
  formed : (Json.object record.metadata).WellFormed
  floatless : (Json.object record.metadata).isFloatless = true
  nests : (Json.object record.metadata).depth < Json.depthLimit

theorem keys_fields (record : Record) (app : String) :
    ((record.fields app).map (·.1)).Sublist
      ["timestamp", "level", "app", "context", "requestId", "message", "trace", "metadata"] := by
  have optional : ∀ key text, ((optionalField key text).map (·.1)).Sublist [key] := by
    intro key text
    cases text
    · exact List.nil_sublist _
    · exact .refl _
  have last : ((if record.metadata.isEmpty then []
      else [("metadata", Json.object record.metadata)]).map (·.1)).Sublist ["metadata"] := by
    split
    · exact List.nil_sublist _
    · exact .refl _
  simp only [fields, List.map_append]
  exact (((((List.Sublist.refl ["timestamp", "level", "app"]).append (optional "context" _)).append
    (optional "requestId" _)).append (.refl ["message"])).append (optional "trace" _)).append last

theorem distinct_fields (record : Record) (app : String) :
    ((record.fields app).map (·.1)).Nodup := (keys_fields record app).nodup (by decide)

/-- The object made of a record's fields tells the record. -/
theorem isToldBy_ofList (record : Record) (app : String) :
    record.IsToldBy app (Json.Fields.ofList (record.fields app)) := by
  have told := Json.Fields.find?_ofList (record.distinct_fields app)
  have keys : ∀ key, ((Json.Fields.ofList (record.fields app)).find? key).isSome →
      key ∈ ["timestamp", "level", "app", "context", "requestId", "message", "trace",
        "metadata"] := by
    intro key there
    rw [told, Json.Fields.find?_isSome_iff] at there
    exact (keys_fields record app).subset there
  obtain ⟨level, message, context, requestId, trace, metadata, time⟩ := record
  constructor
  case keys => exact keys
  -- Which fields there are depends on the four that a record may lack.
  all_goals
    rw [told]
    cases context <;> cases requestId <;> cases trace <;> cases metadata <;> rfl

/-- Every field but the metadata is a text. -/
theorem mem_fields {record : Record} {app : String} {field : String × Json}
    (member : field ∈ record.fields app) :
    (∃ text, field.2 = .string text) ∨ field.2 = .object record.metadata := by
  have optional : ∀ key text, field ∈ optionalField key text → ∃ text, field.2 = .string text := by
    intro key text inside
    cases text with
    | none => cases inside
    | some text => exact ⟨text, by rw [List.mem_singleton.mp inside]⟩
  simp only [fields, List.mem_append, List.mem_cons, List.not_mem_nil, or_false] at member
  rcases member with
    (((((rfl | rfl | rfl) | context) | requestId) | rfl) | trace) | metadata
  · exact .inl ⟨_, rfl⟩
  · exact .inl ⟨_, rfl⟩
  · exact .inl ⟨_, rfl⟩
  · exact .inl (optional _ _ context)
  · exact .inl (optional _ _ requestId)
  · exact .inl ⟨_, rfl⟩
  · exact .inl (optional _ _ trace)
  · split at metadata
    · cases metadata
    · exact .inr (by rw [List.mem_singleton.mp metadata])

theorem IsLossless.fields {record : Record} (lossless : record.IsLossless) (app : String) :
    ∀ field ∈ record.fields app, field.2.WellFormed ∧ field.2.isFloatless = true
      ∧ field.2.depth < Json.depthLimit := by
  intro field member
  rcases mem_fields member with ⟨text, value⟩ | value
  · rw [value]
    exact ⟨.string text, rfl, Nat.succ_pos 126⟩
  · rw [value]
    exact ⟨lossless.formed, lossless.floatless, lossless.nests⟩

/-- The line of a record is read as an object that tells the record. -/
theorem read_jsonLine {record : Record} (lossless : record.IsLossless) (app : String) :
    ∃ object, Json.read (Utf8.encode (record.jsonLine app)) = .ok (.object object)
      ∧ record.IsToldBy app object := by
  have whole := lossless.fields app
  refine ⟨_, ?_, isToldBy_ofList record app⟩
  exact Json.read_fields (fun field member => (whole field member).1)
    (fun field member => (whole field member).2.1) (fun field member => (whole field member).2.2)

end Record

/-! ## The stream -/

/-- Lines that hold no line end are what their text is cut into. -/
theorem splitOn_lines {α : Type} [BEq α] [LawfulBEq α] {ending : α} {lines : List (List α)}
    (none : ∀ line ∈ lines, ending ∉ line) :
    (lines.flatMap (· ++ [ending])).splitOn ending = lines ++ [[]] := by
  -- A line end behind every line stands between the lines and an empty last one.
  have joined : lines.flatMap (· ++ [ending]) = [ending].intercalate (lines ++ [[]]) := by
    induction lines with
    | nil => rfl
    | cons line rest ih =>
      rw [List.forall_mem_cons] at none
      rw [List.flatMap_cons, ih none.2, List.cons_append]
      cases rest <;> simp [List.intercalate]
  rw [joined]
  apply List.splitOn_intercalate
  · intro line member
    rcases List.mem_append.mp member with member | member
    · exact none line member
    · rw [List.mem_singleton.mp member]
      exact List.not_mem_nil
  · exact List.append_ne_nil_of_right_ne_nil lines (List.cons_ne_nil _ _)

/-- The text on one stream of a terminal. -/
def Terminal.shown (terminal : Terminal) : Stream → List Char
  | .out => terminal.out
  | .err => terminal.err

namespace Console

def writeAll (console : Console) (records : List Record) (terminal : Terminal) : Terminal :=
  records.foldl (fun terminal record => console.write record terminal) terminal

theorem shown_write (console : Console) (record : Record) (terminal : Terminal) :
    (console.write record terminal).shown console.stream
      = terminal.shown console.stream ++ console.render record := by
  cases stream : console.stream <;> simp [write, Terminal.write, Terminal.shown, stream]

theorem shown_writeAll (console : Console) (records : List Record) (terminal : Terminal) :
    (console.writeAll records terminal).shown console.stream
      = terminal.shown console.stream ++ records.flatMap console.render := by
  induction records generalizing terminal with
  | nil => simp [writeAll]
  | cons record rest ih =>
    have later := ih (console.write record terminal)
    rw [shown_write, List.append_assoc] at later
    exact later

/-- What a console that writes JSON shows for records is a line for each, in their order, and
nothing that a record holds makes or breaks a line. A line whose record has no binary64 number and
nests less deep than readers go is read as an object with just the fields of that record. -/
theorem json_stream_tells_records (console : Console) (json : console.format = .json)
    (records : List Record) (lossless : ∀ record ∈ records, record.IsLossless) :
    let shown := (console.writeAll records .blank).shown console.stream
    let lines := records.map (·.jsonLine console.app)
    shown = lines.flatMap (· ++ ['\n'])
      ∧ shown.splitOn '\n' = lines ++ [[]]
      ∧ List.Forall₂ (fun record line => ∃ object,
          Json.read (Utf8.encode line) = .ok (.object object)
            ∧ record.IsToldBy console.app object) records lines := by
  intro shown lines
  have framed : shown = lines.flatMap (· ++ ['\n']) := by
    have blank : Terminal.shown .blank console.stream = [] := by cases console.stream <;> rfl
    have render : console.render = fun record => record.jsonLine console.app ++ ['\n'] := by
      funext record
      simp only [Console.render, json]
    simp only [shown, lines, shown_writeAll, blank, render, List.nil_append, List.flatMap_map]
  have single : ∀ line ∈ lines, '\n' ∉ line := by
    intro line member
    obtain ⟨record, _, rfl⟩ := List.mem_map.mp member
    exact Json.newline_not_mem_print _
  refine ⟨framed, framed ▸ splitOn_lines single, ?_⟩
  rw [List.forall₂_map_right_iff, List.forall₂_same]
  exact fun record member => Record.read_jsonLine (lossless record member) console.app

/-- Two records whose message holds a whole line of its own, with an empty label, control characters
in the trace and the least and the greatest integer in nested metadata: there are still two lines,
and each tells its record. -/
theorem json_stream_tells_records_despite_forgery :
    let console : Console := ⟨.json, "app\n", false, .err⟩
    let record : Record :=
      { level := .warn, message := "a\\\"\n\x7b\"level\":\"error\"\x7d\n", context := some "",
        requestId := none, trace := some "b\r\n\t\x01",
        metadata := [("key\n", .array [.integer (-0x8000000000000000),
          .object [("", .integer 0xFFFFFFFFFFFFFFFF)]])], time := ⟨0, 0⟩ }
    record.IsLossless
      ∧ (((console.writeAll [record, record] .blank).shown .err).splitOn '\n').length = 3
      ∧ ∃ object, Json.read (Utf8.encode (record.jsonLine "app\n")) = .ok (.object object)
        ∧ record.IsToldBy "app\n" object := by
  intro console record
  have lossless : record.IsLossless := by
    refine ⟨?_, rfl, by decide⟩
    refine .object (List.pairwise_singleton _ _) fun field member => ?_
    obtain rfl := List.mem_singleton.mp member
    refine .array fun item member => ?_
    rcases List.mem_pair.mp member with rfl | rfl
    · exact .integer ⟨by decide, by decide⟩
    · refine .object (List.pairwise_singleton _ _) fun field member => ?_
      obtain rfl := List.mem_singleton.mp member
      exact .integer ⟨by decide, by decide⟩
  have both : ∀ each ∈ [record, record], each.IsLossless := by
    intro each member
    rcases List.mem_pair.mp member with rfl | rfl <;> exact lossless
  obtain ⟨_, split, told⟩ := json_stream_tells_records console rfl [record, record] both
  refine ⟨lossless, ?_, ?_⟩
  · rw [split]
    rfl
  · cases told with
    | cons first _ => exact first

end Console

end Gatehouse
