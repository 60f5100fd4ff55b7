import Gatehouse.Proofs.Calendar.DateText
import Gatehouse.Proofs.Log.LineStream

/-!
# Streams of lines for people

A line for people shows the label, the request id, the message and the trace of a record as they
are, so it breaks wherever one of these texts does, and once more in front of a trace. The time, the
level, the colors and the metadata never break it: a console shows a record on one line exactly if
the record has no trace and none of the other three texts holds a line end. A message that does can
pass for records of its own.
-/
namespace Gatehouse

namespace Record

/-- The texts that a line for people shows as they are. -/
def looseTexts (record : Record) : List String :=
  record.context.toList ++ record.requestId.toList ++ [record.message] ++ record.trace.toList

/-- How often the line of a record for people breaks. -/
def breaks (record : Record) : Nat :=
  (record.looseTexts.map (·.toList.count '\n')).sum + record.trace.toList.length

/-! ## The parts of a line -/

theorem newline_not_mem_printHuman (time : Timestamp) : '\n' ∉ time.printHuman := by
  have digits : ∀ width n, '\n' ∉ Date.padded width n := fun width n member =>
    absurd (Date.isDigit_of_mem_padded member) (by decide)
  have date : '\n' ∉ time.date.print := fun member =>
    absurd (Date.of_mem_print member) (by decide)
  simp [Timestamp.printHuman, Timestamp.printClock, Timestamp.printMillis, digits, date]

theorem newline_not_mem_coloredLabel (level : Level) (colors : Bool) :
    '\n' ∉ coloredLabel level colors := by
  cases level <;> cases colors <;> decide +kernel

theorem count_bracketed (text : Option String) :
    (bracketed text).count '\n' = (text.toList.map (·.toList.count '\n')).sum := by
  cases text <;> simp [bracketed]

theorem count_metadata (metadata : Json.Fields) :
    List.count '\n' (if metadata = [] then [] else ' ' :: Json.print (.object metadata)) = 0 := by
  split
  · rfl
  · simp [List.count_eq_zero, Json.newline_not_mem_print]

/-- A line for people breaks where its loose texts do, and in front of a trace. -/
theorem count_prettyLine (record : Record) (colors : Bool) :
    (record.prettyLine colors).count '\n' = record.breaks := by
  have time := List.count_eq_zero.mpr (newline_not_mem_printHuman record.time)
  have label := List.count_eq_zero.mpr (newline_not_mem_coloredLabel record.level colors)
  cases trace : record.trace with
  | none => simp [prettyLine, breaks, looseTexts, count_bracketed, count_metadata, time, label, trace]
  | some text =>
    simp [prettyLine, breaks, looseTexts, count_bracketed, count_metadata, time, label, trace]
    omega

theorem breaks_eq_zero_iff (record : Record) :
    record.breaks = 0
      ↔ record.trace = none ∧ ∀ text ∈ record.looseTexts, '\n' ∉ text.toList := by
  have texts : (record.looseTexts.map (·.toList.count '\n')).sum = 0
      ↔ ∀ text ∈ record.looseTexts, '\n' ∉ text.toList := by
    simp [List.sum_eq_zero_iff_forall_eq_nat, List.count_eq_zero]
  cases trace : record.trace <;> simp [breaks, trace, texts]

end Record

/-! ## The stream -/

/-- A text is cut into one piece more than it has line ends. -/
theorem length_splitOn (ending : Char) (text : List Char) :
    (text.splitOn ending).length = text.count ending + 1 := by
  induction text with
  | nil => simp
  | cons c rest ih =>
    rw [List.splitOn_cons_eq_if_modifyHead, List.count_cons]
    split <;> simp [ih]

theorem count_lines (ending : Char) (lines : List (List Char)) :
    (lines.flatMap (· ++ [ending])).count ending
      = lines.length + (lines.map (List.count ending)).sum := by
  induction lines with
  | nil => rfl
  | cons line rest ih =>
    simp only [List.flatMap_cons, List.count_append, ih, List.length_cons, List.map_cons,
      List.sum_cons, List.count_singleton_self]
    omega

namespace Console

/-- What a console for people shows of records, as it is cut into lines. For each record there is
its line, which breaks once for each line end in a text that is shown as it is and once in front of
a trace. So there are exactly as many lines as records if no record has a trace and no label,
request id or message holds a line end, whatever the metadata hold; and more if one does. -/
theorem pretty_stream_breaks (app : String) (colors : Bool) (stream : Stream)
    (records : List Record) :
    let console : Console := ⟨.pretty, app, colors, stream⟩
    let shown := (console.writeAll records .blank).shown stream
    let lines := records.map (·.prettyLine colors)
    shown = lines.flatMap (· ++ ['\n'])
      ∧ shown.count '\n' = records.length + (records.map Record.breaks).sum
      ∧ (shown.splitOn '\n' = lines ++ [[]] ↔
          ∀ record ∈ records, record.trace = none
            ∧ ∀ text ∈ record.looseTexts, '\n' ∉ text.toList) := by
  intro console shown lines
  have framed : shown = lines.flatMap (· ++ ['\n']) := by
    have blank : Terminal.shown .blank stream = [] := by cases stream <;> rfl
    have written : shown = Terminal.shown .blank stream ++ records.flatMap console.render :=
      console.shown_writeAll records .blank
    rw [written, blank, List.nil_append, List.flatMap_map]
    rfl
  have breaks : lines.map (List.count '\n') = records.map Record.breaks := by
    rw [List.map_map]
    exact List.map_congr_left fun record _ => record.count_prettyLine colors
  have counted : shown.count '\n' = records.length + (records.map Record.breaks).sum := by
    rw [framed, count_lines, breaks, List.length_map]
  refine ⟨framed, counted, ?_⟩
  simp only [← Record.breaks_eq_zero_iff]
  constructor
  · -- As many pieces as lines leave no break to any record.
    intro cut
    have pieces := length_splitOn '\n' shown
    rw [cut, counted, List.length_append, List.length_map, List.length_singleton] at pieces
    have none : (records.map Record.breaks).sum = 0 := by omega
    intro record member
    exact List.sum_eq_zero_iff_forall_eq_nat.mp none _ (List.mem_map_of_mem member)
  · intro none
    rw [framed]
    apply splitOn_lines
    intro line member
    obtain ⟨record, inside, rfl⟩ := List.mem_map.mp member
    rw [← List.count_eq_zero, record.count_prettyLine]
    exact none record inside

/-- A message with a whole line for people in it: the console shows for one record without a trace
what it shows for two, the second of them an error. -/
theorem pretty_stream_forged :
    let console : Console := ⟨.pretty, "app", false, .out⟩
    let record (level : Level) (message : String) : Record :=
      { level := level, message := message, context := none, requestId := none, trace := none,
        metadata := [], time := ⟨0, 0⟩ }
    let forger := record .info "ok\n1970-01-01 00:00:00.000 ERROR   down"
    forger.trace = none
      ∧ (console.writeAll [forger] .blank).shown .out
        = (console.writeAll [record .info "ok", record .error "down"] .blank).shown .out
      ∧ ((console.writeAll [forger] .blank).shown .out).count '\n' = 2
      ∧ '\n' ∈ forger.prettyLine false ∧ '\n' ∈ forger.prettyLine true := by
  decide +kernel

end Console

end Gatehouse
