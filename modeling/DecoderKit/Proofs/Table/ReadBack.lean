import DecoderKit.Proofs.Table.PlainRecords
import DecoderKit.Proofs.Text.Hexadecimal

/-!
# A written table can be taken back

A reader of written tables is defined here: it cuts a text into lines, a line into
fields at its commas, and reads each field in its base. Whether there are titles shows
in the first line, which is theirs or that of a row but cannot be both.

`ofWritten?_eq_some` says that it undoes writing. What has to be known for that is
small and of two kinds. No field holds a comma and no line a line feed, so nothing is
cut in the wrong place (`Plain`). And the digits of a number, however many it takes
beyond two, are those of that number alone (`IsPaddedHex`).
-/

namespace DecoderKit

namespace Row

/-- The number that a field spells. -/
def fieldNumber? (base : Nat) (digits : Text) : Option UInt32 :=
  match Numeral.read base columnBound digits with
  | .ok n => some (UInt32.ofNat n)
  | .error _ => none

/-- The number in a hexadecimal field. -/
def unmarked? : Text → Option UInt32
  | '0' :: 'x' :: digits => fieldNumber? 16 digits
  | _ => none

/-- The number behind the letter of a symbol. -/
def unlabelled? : Text → Option UInt32
  | 's' :: digits => fieldNumber? 10 digits
  | _ => none

/-- The row with these fields. -/
def ofFields? : List Text → Option Row
  | [state, symbol, baseline, bits] => do
    let state ← unmarked? state
    let symbol ← unlabelled? symbol
    let baseline ← unmarked? baseline
    let bits ← fieldNumber? 10 bits
    return { state, symbol, bits, baseline }
  | _ => none

/-- The row that is written as this line. -/
def ofText? (line : Text) : Option Row := ofFields? (line.splitOn ',')

/-! ## Fields and lines -/

theorem fieldNumber?_eq_some {base : Nat} {digits : Text} {v : UInt32}
    (h : Numeral.read base columnBound digits = .ok v.toNat) :
    fieldNumber? base digits = some v := by
  rw [fieldNumber?, h]
  exact congrArg some UInt32.ofNat_toNat

theorem fieldNumber?_decimal (v : UInt32) :
    fieldNumber? 10 (Numeral.decimal v.toNat) = some v :=
  fieldNumber?_eq_some (Numeral.read_toDigits (by decide) (by decide) (toNat_le_columnBound v) 0)

theorem unmarked?_hexField (v : UInt32) : unmarked? (hexField v) = some v :=
  fieldNumber?_eq_some (Numeral.read_hexByte (toNat_le_columnBound v))

theorem ofFields?_fields (row : Row) : ofFields? row.fields = some row := by
  have hsymbol : unlabelled? ('s' :: Numeral.decimal row.symbol.toNat) = some row.symbol :=
    fieldNumber?_decimal row.symbol
  rw [fields, ofFields?, unmarked?_hexField, hsymbol, unmarked?_hexField, fieldNumber?_decimal]
  rfl

/-- The pieces of a row's line between its commas are the fields of the row. -/
theorem splitOn_text (row : Row) : row.text.splitOn ',' = row.fields := by
  have hplain := Table.plain_fields row
  have hcomma : ∀ field ∈ row.fields, ',' ∉ field := by
    intro field hfield hmem
    have hlayout := hplain.bare field hfield ',' hmem
    exact absurd hlayout (by decide)
  exact List.splitOn_intercalate ',' hcomma hplain.nonempty

/-- **A row is taken back from its line.** -/
theorem ofText?_text (row : Row) : ofText? row.text = some row := by
  rw [ofText?, splitOn_text, ofFields?_fields]

/-- A row does not look like the titles. -/
theorem text_ne_titleLine (row : Row) : row.text ≠ Table.titleLine := by
  intro h
  have hhead : row.text.head? = some '0' := rfl
  rw [h] at hhead
  exact absurd hhead (by decide)

/-- Each hexadecimal field of a line is the marker and the padded digits of its number. -/
theorem text_eq (row : Row) : ∃ state baseline : Text,
    row.text = [','].intercalate ['0' :: 'x' :: state, 's' :: Numeral.decimal row.symbol.toNat,
        '0' :: 'x' :: baseline, Numeral.decimal row.bits.toNat]
      ∧ Numeral.IsPaddedHex state row.state.toNat
      ∧ Numeral.IsPaddedHex baseline row.baseline.toNat :=
  ⟨_, _, rfl, Numeral.isPaddedHex_hexByte _, Numeral.isPaddedHex_hexByte _⟩

end Row

namespace Table

/-- The rows with these lines, and whether titles stand above them. -/
def ofLines? : List Text → Option (Bool × List Row)
  | [] => some (false, [])
  | line :: rest =>
    if line = titleLine then (rest.mapM Row.ofText?).map (true, ·)
    else ((line :: rest).mapM Row.ofText?).map (false, ·)

/-- The rows of a written table, and whether it has titles. -/
def ofWritten? (t : Text) : Option (Bool × List Row) := ofLines? (Text.lines t)

theorem mapM_ofText? (rows : List Row) : (rows.map Row.text).mapM Row.ofText? = some rows :=
  mapM_map_eq_some Row.ofText?_text rows

theorem ofLines?_tableLines (header : Bool) (rows : List Row) :
    ofLines? (tableLines header rows) = some (header, rows) := by
  cases header with
  | true =>
      rw [tableLines, if_pos rfl, List.singleton_append, ofLines?, if_pos rfl, mapM_ofText?]
      rfl
  | false =>
      -- the first line is that of a row, and it is not taken for the titles
      rw [tableLines, if_neg Bool.false_ne_true, List.nil_append]
      cases rows with
      | nil => rfl
      | cons row rows =>
          rw [List.map_cons, ofLines?, if_neg row.text_ne_titleLine, ← List.map_cons,
            mapM_ofText?]
          rfl

/-- A written table is taken back, however it was written. -/
theorem ofWritten?_eq_some {writer : RecordWriter} (hw : writer.IsVerbatim) {style : Style}
    {rows : List Row} {t : Text} (h : writeWith writer style rows = .ok t) :
    ofWritten? t = some (style.header, rows) := by
  rw [writeWith_eq hw] at h
  cases hcheck : checkWidth rows style.width with
  | error fault => rw [hcheck] at h; exact absurd h (by simp [Except.map])
  | ok _ =>
      rw [hcheck] at h
      rw [← Except.ok.inj h, ofWritten?, lines_tableLines, ofLines?_tableLines]

/-- **Writing loses nothing.** A table that may widen its fields is always written, its rows and
whether it has titles are taken back from the text, so no two tables have one text. Each field of
a state or a baseline is the marker and the digits of its number. -/
theorem writeWith_lossless {writer : RecordWriter} (hw : writer.IsVerbatim) :
    (∀ header rows, ∃ t, writeWith writer { header, width := .widen } rows = .ok t
        ∧ ofWritten? t = some (header, rows)
        ∧ Text.lines t = (if header then [titleLine] else []) ++ rows.map Row.text)
      ∧ (∀ header rows header' rows', writeWith writer { header, width := .widen } rows
          = writeWith writer { header := header', width := .widen } rows' →
        header = header' ∧ rows = rows')
      ∧ ∀ row : Row, ∃ state baseline : Text,
        row.text = [','].intercalate
            ['0' :: 'x' :: state, 's' :: Numeral.decimal row.symbol.toNat,
              '0' :: 'x' :: baseline, Numeral.decimal row.bits.toNat]
          ∧ Numeral.IsPaddedHex state row.state.toNat
          ∧ Numeral.IsPaddedHex baseline row.baseline.toNat := by
  have hwrite : ∀ header rows, writeWith writer { header, width := .widen } rows
      = .ok ((tableLines header rows).flatMap fun line => line ++ ['\n']) := by
    intro header rows
    rw [writeWith_eq hw]
    rfl
  refine ⟨fun header rows => ?_, fun header rows header' rows' heq => ?_, Row.text_eq⟩
  · exact ⟨_, hwrite header rows, ofWritten?_eq_some hw (hwrite header rows),
      lines_tableLines header rows⟩
  · -- the one text is taken back as both tables
    have hback := ofWritten?_eq_some hw (hwrite header rows)
    rw [Except.ok.inj ((hwrite header rows).symm.trans (heq.trans (hwrite header' rows'))),
      ofWritten?_eq_some hw (hwrite header' rows')] at hback
    obtain ⟨hheader, hrows⟩ := Prod.mk.inj (Option.some.inj hback)
    exact ⟨hheader.symm, hrows.symm⟩

/-- Fields of one digit and of eight, under titles. -/
theorem writeWith_lossless_titled :
    recordWriter.IsVerbatim
      ∧ writeWith recordWriter { header := true } [⟨9, 0, 4294967295, 4294967295⟩]
        = .ok "State,Sym,BL,NB\n0x09,s0,0xffffffff,4294967295\n".toList
      ∧ ofWritten? "State,Sym,BL,NB\n0x09,s0,0xffffffff,4294967295\n".toList
        = some (true, [⟨9, 0, 4294967295, 4294967295⟩]) := by
  have hwritten : writeWith recordWriter { header := true } [⟨9, 0, 4294967295, 4294967295⟩]
      = .ok "State,Sym,BL,NB\n0x09,s0,0xffffffff,4294967295\n".toList := by decide +kernel
  obtain ⟨t, hwrite, hback, _⟩ :=
    (writeWith_lossless recordWriter_isVerbatim).1 true [⟨9, 0, 4294967295, 4294967295⟩]
  rw [hwritten] at hwrite
  rw [← Except.ok.inj hwrite] at hback
  exact ⟨recordWriter_isVerbatim, hwritten, hback⟩

end Table

end DecoderKit
