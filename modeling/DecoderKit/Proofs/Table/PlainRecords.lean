import DecoderKit.Proofs.Text.Lines
import DecoderKit.Proofs.Text.Numerals
import DecoderKit.Table.Writer

/-!
# A written table is its rows, line by line

A row is turned into text in two ways: `Row.text` joins its fields with commas, and
a table gives the fields to a writer of records, which has rules of its own about
quoting. That the two agree hangs on the fields. They consist of digits, letters and
the marker of hexadecimal numbers, so no rule about quoting ever applies.

Of the writer only `IsVerbatim` is relied on: records of one length whose fields
hold no layout character are written as they are. `recordWriter` is such a writer.
-/

namespace DecoderKit

namespace Record

/-- The record has fields, they hold no layout character, and it is not a single empty one. -/
structure Plain (fields : List Text) : Prop where
  nonempty : fields ≠ []
  notBlank : fields ≠ [[]]
  bare : ∀ field ∈ fields, ∀ c ∈ field, isLayout c = false

/-- A text is searched for layout characters from its front. -/
theorem bare_of_all {field : Text} (h : field.all (fun c => !isLayout c) = true) :
    ∀ c ∈ field, isLayout c = false := by
  intro c hc
  have hnot := List.all_eq_true.mp h c hc
  rwa [Bool.not_eq_true'] at hnot

/-- The fields with commas between them, on a line. -/
def plainLine (fields : List Text) : Text := [','].intercalate fields ++ ['\n']

theorem write_of_plain {fields : List Text} (h : Plain fields) :
    write fields = plainLine fields := by
  have hmap : fields.map writeField = fields := by
    refine (List.map_congr_left fun field hfield => ?_).trans (List.map_id fields)
    exact writeField_eq_self (h.bare field hfield)
  rw [write, if_neg h.notBlank, hmap, plainLine]

/-- A character of a plain line is its comma, its line feed or a character of a field. -/
theorem mem_intercalate {fields : List Text} {c : Char} (h : c ∈ [','].intercalate fields) :
    c = ',' ∨ ∃ field ∈ fields, c ∈ field := by
  induction fields with
  | nil => exact absurd h (by simp)
  | cons field fields ih =>
      -- the last field has no comma behind it
      by_cases hnil : fields = []
      · subst hnil
        rw [List.intercalate_singleton] at h
        exact Or.inr ⟨field, List.mem_singleton_self _, h⟩
      · rw [List.intercalate_cons_of_ne_nil hnil] at h
        rcases List.mem_append.mp h with h | h
        · rcases List.mem_append.mp h with h | h
          · exact Or.inr ⟨field, List.mem_cons_self .., h⟩
          · exact Or.inl (List.mem_singleton.mp h)
        · rcases ih h with hc | ⟨field', hfield', hc⟩
          · exact Or.inl hc
          · exact Or.inr ⟨field', List.mem_cons_of_mem _ hfield', hc⟩

end Record

namespace Table

open Record (Plain plainLine isLayout)

/-- Records of one length with plain fields are written one after the other, as they are. -/
def RecordWriter.IsVerbatim (writer : RecordWriter) : Prop :=
  ∀ (length : Nat) (records : List (List Text)),
    (∀ record ∈ records, record.length = length ∧ Plain record) →
    writer records = .ok (records.flatMap plainLine)

theorem recordWriter_isVerbatim : recordWriter.IsVerbatim := by
  intro length records h
  refine congrArg Except.ok ?_
  rw [List.flatMap_def, List.flatMap_def]
  congr 1
  exact List.map_congr_left fun record hrecord => Record.write_of_plain (h record hrecord).2

/-! ## The fields of a table are plain -/

/-- No digit is a layout character. -/
theorem isLayout_of_mem_toDigits {base n : Nat} (hb : 1 < base) (hle : base ≤ 16) {c : Char}
    (h : c ∈ Nat.toDigits base n) : isLayout c = false := by
  have hdigits : ∀ d < 16, isLayout (Nat.digitChar d) = false := by decide
  obtain ⟨d, hd, rfl⟩ := Numeral.mem_toDigits hb h
  exact hdigits d (Nat.lt_of_lt_of_le hd hle)

theorem isLayout_of_mem_hexField {n : UInt32} : ∀ c ∈ Row.hexField n, isLayout c = false := by
  intro c hc
  rw [Row.hexField, Numeral.hexByte, List.leftpad] at hc
  -- the marker, then zeros that pad, then digits
  rcases List.mem_append.mp hc with hc | hc
  · exact Record.bare_of_all (show ['0', 'x'].all (fun c => !isLayout c) = true from rfl) c hc
  · rcases List.mem_append.mp hc with hc | hc
    · rw [List.eq_of_mem_replicate hc]
      decide
    · exact isLayout_of_mem_toDigits (by decide) (by decide) hc

theorem isLayout_of_mem_decimal {n : Nat} : ∀ c ∈ Numeral.decimal n, isLayout c = false :=
  fun _ hc => isLayout_of_mem_toDigits (by decide) (by decide) hc

theorem plain_fields (row : Row) : Plain row.fields where
  nonempty := by simp [Row.fields]
  notBlank := by simp [Row.fields]
  bare := by
    intro field hfield
    simp only [Row.fields, List.mem_cons, List.not_mem_nil, or_false] at hfield
    rcases hfield with rfl | rfl | rfl | rfl
    · exact isLayout_of_mem_hexField
    · exact List.forall_mem_cons.mpr ⟨by decide, isLayout_of_mem_decimal⟩
    · exact isLayout_of_mem_hexField
    · exact isLayout_of_mem_decimal

theorem plain_titles : Plain (titles.map String.toList) where
  nonempty := by simp [titles]
  notBlank := by simp [titles]
  bare := by
    intro field hfield
    have hall : (titles.map String.toList).all
        (fun field => field.all fun c => !isLayout c) = true := by decide
    exact Record.bare_of_all (List.all_eq_true.mp hall field hfield)

theorem plain_records {header : Bool} {rows : List Row} :
    ∀ record ∈ records header rows, record.length = 4 ∧ Plain record := by
  intro record hrecord
  rcases List.mem_append.mp hrecord with h | h
  · cases header with
    | false => exact absurd h (by simp)
    | true =>
        rw [List.mem_singleton.mp h]
        exact ⟨rfl, plain_titles⟩
  · obtain ⟨row, _, rfl⟩ := List.mem_map.mp h
    exact ⟨rfl, plain_fields row⟩

/-! ## The text of a table -/

/-- The line of titles, without its line feed. -/
def titleLine : Text := "State,Sym,BL,NB".toList

/-- The lines of a table, without their line feeds. -/
def tableLines (header : Bool) (rows : List Row) : List Text :=
  (if header then [titleLine] else []) ++ rows.map Row.text

theorem titleLine_eq : titleLine = [','].intercalate (titles.map String.toList) := by decide

theorem records_flatMap_plainLine (header : Bool) (rows : List Row) :
    (records header rows).flatMap plainLine
      = (tableLines header rows).flatMap fun line => line ++ ['\n'] := by
  have htitles : plainLine (titles.map String.toList) = titleLine ++ ['\n'] := by
    rw [plainLine, titleLine_eq]
  have hrows : (rows.map Row.fields).flatMap plainLine
      = (rows.map Row.text).flatMap fun line => line ++ ['\n'] := by
    rw [List.flatMap_map, List.flatMap_map]
    rfl
  rw [records, tableLines, List.flatMap_append, List.flatMap_append, hrows]
  cases header with
  | false => rfl
  | true => simp [htitles]

/-- Whether the check passes is all that the text of a table depends on. -/
theorem writeWith_eq {writer : RecordWriter} (hw : writer.IsVerbatim) (style : Style)
    (rows : List Row) : writeWith writer style rows = (checkWidth rows style.width).map fun _ =>
      (tableLines style.header rows).flatMap fun line => line ++ ['\n'] := by
  rw [writeWith, hw 4 _ plain_records, records_flatMap_plainLine]
  cases checkWidth rows style.width <;> rfl

theorem mem_intercalate_of_plain {fields : List Text} (hplain : Plain fields) {c : Char}
    (h : c ∈ [','].intercalate fields) : c = ',' ∨ isLayout c = false := by
  rcases Record.mem_intercalate h with h | ⟨field, hfield, hc⟩
  · exact Or.inl h
  · exact Or.inr (hplain.bare field hfield c hc)

/-- The only layout character in a line of a table is the comma. -/
theorem mem_tableLines {header : Bool} {rows : List Row} {line : Text}
    (h : line ∈ tableLines header rows) : ∀ c ∈ line, c = ',' ∨ isLayout c = false := by
  rcases List.mem_append.mp h with h | h
  · cases header with
    | false => exact absurd h (by simp)
    | true =>
        rw [List.mem_singleton.mp h, titleLine_eq]
        exact fun c hc => mem_intercalate_of_plain plain_titles hc
  · obtain ⟨row, _, rfl⟩ := List.mem_map.mp h
    exact fun c hc => mem_intercalate_of_plain (plain_fields row) hc

theorem not_mem_of_mem_tableLines {header : Bool} {rows : List Row} {line : Text}
    (h : line ∈ tableLines header rows) {c : Char} (hcomma : c ≠ ',') (hc : isLayout c = true) :
    c ∉ line := by
  intro hmem
  rcases mem_tableLines h c hmem with heq | hno
  · exact hcomma heq
  · rw [hc] at hno
    exact Bool.noConfusion hno

/-- The lines of a written table are read back. -/
theorem lines_tableLines (header : Bool) (rows : List Row) :
    Text.lines ((tableLines header rows).flatMap fun line => line ++ ['\n'])
      = tableLines header rows := by
  -- a line is read back unless it has a line feed in it or a carriage return at its end
  refine Text.lines_flatMap_feed (fun line h => ?_) (fun line h => ?_)
  · exact not_mem_of_mem_tableLines h (by decide) (by decide)
  · intro hlast
    exact not_mem_of_mem_tableLines h (by decide) (by decide) (List.mem_of_mem_getLast? hlast)

/-- **A table is written as its titles and the text of its rows, a line each.** Nothing in it is
quoted, and the lines are read back as they were written. -/
theorem writeWith_eq_lines {writer : RecordWriter} (hw : writer.IsVerbatim) {style : Style}
    {rows : List Row} (h : checkWidth rows style.width = .ok ()) :
    ∃ output, writeWith writer style rows = .ok output
      ∧ output = (if style.header then "State,Sym,BL,NB".toList ++ ['\n'] else [])
        ++ rows.flatMap (fun row => row.text ++ ['\n'])
      ∧ Text.lines output
        = (if style.header then ["State,Sym,BL,NB".toList] else []) ++ rows.map Row.text
      ∧ (Text.lines output).length = rows.length + (if style.header then 1 else 0)
      ∧ '"' ∉ output
      ∧ (style.header = false → rows = [] → output = []) := by
  refine ⟨_, by rw [writeWith_eq hw, h]; rfl, ?_, ?_, ?_, ?_, ?_⟩
  · rw [tableLines, List.flatMap_append, List.flatMap_map]
    cases style.header <;> rfl
  · exact lines_tableLines style.header rows
  · rw [lines_tableLines, tableLines, List.length_append, List.length_map, Nat.add_comm]
    cases style.header <;> rfl
  · -- a quotation mark is a layout character, and so in no line, and it ends none
    intro hmem
    obtain ⟨line, hline, hc⟩ := List.mem_flatMap.mp hmem
    rcases List.mem_append.mp hc with hc | hc
    · exact not_mem_of_mem_tableLines hline (by decide) (by decide) hc
    · exact absurd hc (by decide)
  · intro hheader hrows
    rw [hheader, hrows]
    rfl

/-- Two rows after their titles, in strict writing. -/
theorem writeWith_eq_lines_titled :
    recordWriter.IsVerbatim
      ∧ checkWidth [⟨15, 7, 4, 16⟩, ⟨255, 4294967295, 0, 0⟩] .strict = .ok ()
      ∧ writeWith recordWriter { header := true, width := .strict }
          [⟨15, 7, 4, 16⟩, ⟨255, 4294967295, 0, 0⟩]
        = .ok "State,Sym,BL,NB\n0x0f,s7,0x10,4\n0xff,s4294967295,0x00,0\n".toList := by
  have hcheck : checkWidth [⟨15, 7, 4, 16⟩, ⟨255, 4294967295, 0, 0⟩] .strict = .ok () := rfl
  refine ⟨recordWriter_isVerbatim, hcheck, ?_⟩
  obtain ⟨output, hwrite, houtput, _⟩ :=
    @writeWith_eq_lines recordWriter recordWriter_isVerbatim ⟨true, .strict⟩ _ hcheck
  rw [hwrite, houtput]
  exact congrArg Except.ok (by decide +kernel)

end Table

end DecoderKit
