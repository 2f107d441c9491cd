import DecoderKit.Proofs.Table.JsonRows
import DecoderKit.Proofs.Table.ReadBack
import DecoderKit.Proofs.Table.Reading
import DecoderKit.Proofs.Table.Width

/-!
# The lines and the JSON of a table

A table is converted to lines or to JSON, and the two ways part as soon as it has been
read. JSON is checked for width first and printed then; lines are checked by their own
writer, before anything is written. At the end of each way stands a printer that may fail.

They are two forms of one table all the same. The printers are given records and values
that they do not fail on, so which text is refused, and for what, is settled by the reader
and by the width check, and neither of them knows of the form. What is left to compare are
the texts, and they are compared by what is taken back from them.
-/

namespace DecoderKit.Table

namespace Conversion

variable {conversion : Conversion} {writer : RecordWriter} {printer : JsonPrinter}

/-- A conversion does not depend on who writes and who prints. -/
theorem writeUsing_eq_write (hw : writer.IsVerbatim) (hp : printer.IsIndenting)
    (conversion : Conversion) (rows : List Row) :
    conversion.writeUsing writer printer rows = conversion.write rows := by
  have hlines : writeWith writer conversion.style rows
      = writeWith recordWriter conversion.style rows := by
    rw [writeWith_eq hw, writeWith_eq recordWriter_isVerbatim]
  have hjson : writeJsonWith printer rows = writeJsonWith jsonPrinter rows := by
    rw [writeJsonWith_eq hp, writeJsonWith_eq jsonPrinter_isIndenting]
  rw [write, writeUsing, writeUsing, hlines, hjson]

theorem convertWith_eq_convert (hw : writer.IsVerbatim) (hp : printer.IsIndenting)
    (conversion : Conversion) (t : Text) :
    conversion.convertWith writer printer t = conversion.convert t := by
  rw [convert, convertWith, convertWith]
  cases read t with
  | error fault => rfl
  | ok rows => exact writeUsing_eq_write hw hp conversion rows

theorem convert_eq_ok_iff {t o : Text} : conversion.convert t = .ok o
    ↔ ∃ rows, read t = .ok rows ∧ conversion.write rows = .ok o := by
  rw [convert, convertWith]
  cases hread : read t with
  | error fault =>
      refine ⟨fun h => absurd h (by simp), fun h => ?_⟩
      obtain ⟨rows, hrows, _⟩ := h
      exact absurd hrows (by simp)
  | ok rows =>
      refine ⟨fun h => ⟨rows, rfl, h⟩, fun h => ?_⟩
      obtain ⟨rows', hrows, h⟩ := h
      rwa [Except.ok.inj hrows]

/-- A conversion fails for a row and for nothing else. -/
theorem exists_malformedRow {t : Text} {fault : Fault} (h : conversion.convert t = .error fault) :
    ∃ line reason, fault = .malformedRow line reason := by
  rcases convert_eq_error_iff.mp h with hread | ⟨rows, _, hcheck⟩
  · exact exists_malformedRow_of_read hread
  · obtain ⟨_, front, row, _, _, _, _, hfault⟩ := checkWidth_error hcheck
    exact ⟨front.length + 1, .tooWide row.state row.baseline, hfault⟩

/-- Rows are taken back from their JSON. -/
theorem ofJson?_of_write (hjson : conversion.json = true) {rows : List Row} {o : Text}
    (h : conversion.write rows = .ok o) : ofJson? o = some rows := by
  rw [Conversion.write_eq, if_pos hjson] at h
  cases hcheck : checkWidth rows conversion.style.width with
  | error fault =>
      rw [hcheck] at h
      exact absurd h (by simp [Except.map])
  | ok _ =>
      rw [hcheck] at h
      rw [← Except.ok.inj h]
      exact ofJson?_writeJson rows

/-- Rows are taken back from their lines. -/
theorem ofWritten?_of_write (hlines : conversion.json = false) {rows : List Row} {o : Text}
    (h : conversion.write rows = .ok o) : ofWritten? o = some (conversion.style.header, rows) := by
  rw [Conversion.write, writeUsing, hlines] at h
  exact ofWritten?_eq_some recordWriter_isVerbatim h

/-- **The lines and the JSON of a table are two forms of one thing.** With the same width, one is
refused exactly if the other is, with the same fault, which names a line and a reason. When both
are written, the same rows are taken back from them, and they are the rows of the text. -/
theorem json_agrees_lines (hw : writer.IsVerbatim) (hp : printer.IsIndenting)
    {json lines : Conversion} (hjson : json.json = true) (hlines : lines.json = false)
    (hwidth : json.style.width = lines.style.width) (t : Text) :
    (∀ fault, json.convertWith writer printer t = .error fault
        ↔ lines.convertWith writer printer t = .error fault)
      ∧ (∀ fault, json.convertWith writer printer t = .error fault →
        ∃ line reason, fault = .malformedRow line reason)
      ∧ ((∃ o, json.convertWith writer printer t = .ok o)
        ↔ ∃ o, lines.convertWith writer printer t = .ok o)
      ∧ ∀ o o', json.convertWith writer printer t = .ok o →
        lines.convertWith writer printer t = .ok o' →
        ∃ rows, read t = .ok rows ∧ ofJson? o = some rows
          ∧ ofWritten? o' = some (lines.style.header, rows) := by
  simp only [convertWith_eq_convert hw hp]
  have hfault : ∀ fault, json.convert t = .error fault ↔ lines.convert t = .error fault := by
    intro fault
    rw [convert_eq_error_iff, convert_eq_error_iff, hwidth]
  refine ⟨hfault, fun fault => exists_malformedRow, ?_, fun o o' ho ho' => ?_⟩
  · -- what is not refused is written, so agreeing on faults is enough
    cases hj : json.convert t with
    | error fault => simp [(hfault fault).mp hj]
    | ok o =>
        cases hl : lines.convert t with
        | error fault => exact absurd (hj.symm.trans ((hfault fault).mpr hl)) (by simp)
        | ok o' => simp
  · -- both have read the one text
    obtain ⟨rows, hread, hwrite⟩ := convert_eq_ok_iff.mp ho
    obtain ⟨rows', hread', hwrite'⟩ := convert_eq_ok_iff.mp ho'
    rw [← Except.ok.inj (hread.symm.trans hread')] at hwrite'
    exact ⟨rows, hread, ofJson?_of_write hjson hwrite, ofWritten?_of_write hlines hwrite'⟩

/-- In strict writing a wide row is refused in both forms. A narrow one is taken back from both,
also from under titles. -/
theorem json_agrees_lines_strict :
    let json : Conversion := { json := true, style := { width := .strict } }
    let lines : Conversion := { style := { header := true, width := .strict } }
    recordWriter.IsVerbatim ∧ jsonPrinter.IsIndenting
      ∧ json.convertWith recordWriter jsonPrinter "15 7 4 16\n300 0 0 0\n".toList
        = .error (.malformedRow 2 (.tooWide 300 0))
      ∧ lines.convertWith recordWriter jsonPrinter "15 7 4 16\n300 0 0 0\n".toList
        = .error (.malformedRow 2 (.tooWide 300 0))
      ∧ lines.convertWith recordWriter jsonPrinter "9 0 4 16\n".toList
        = .ok "State,Sym,BL,NB\n0x09,s0,0x10,4\n".toList
      ∧ ofWritten? "State,Sym,BL,NB\n0x09,s0,0x10,4\n".toList = some (true, [⟨9, 0, 4, 16⟩])
      ∧ ∃ o, json.convertWith recordWriter jsonPrinter "9 0 4 16\n".toList = .ok o
        ∧ ofJson? o = some [⟨9, 0, 4, 16⟩] := by
  intro json lines
  have hagree := json_agrees_lines recordWriter_isVerbatim jsonPrinter_isIndenting
    (rfl : json.json = true) (rfl : lines.json = false)
    (rfl : json.style.width = lines.style.width)
  have hwide : json.convertWith recordWriter jsonPrinter "15 7 4 16\n300 0 0 0\n".toList
      = .error (.malformedRow 2 (.tooWide 300 0)) := by decide +kernel
  have hwritten : lines.convertWith recordWriter jsonPrinter "9 0 4 16\n".toList
      = .ok "State,Sym,BL,NB\n0x09,s0,0x10,4\n".toList := by decide +kernel
  have hread : read "9 0 4 16\n".toList = .ok [⟨9, 0, 4, 16⟩] := by decide +kernel
  obtain ⟨o, ho⟩ := (hagree _).2.2.1.mpr ⟨_, hwritten⟩
  obtain ⟨rows, hrows, hjson, hlines⟩ := (hagree _).2.2.2 _ _ ho hwritten
  rw [Except.ok.inj (hrows.symm.trans hread)] at hjson hlines
  exact ⟨recordWriter_isVerbatim, jsonPrinter_isIndenting, hwide, ((hagree _).1 _).mp hwide,
    hwritten, hlines, o, ho, hjson⟩

end Conversion

end DecoderKit.Table
