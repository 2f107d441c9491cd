import DecoderKit.Proofs.Table.ReadBack
import DecoderKit.Proofs.Table.Width

/-!
# Strict writing is widening writing of narrow tables

The width check compares numbers: a state or a baseline above `0xff` is refused. How many
digits such a number takes is the printer's business, and the printer knows of no check.
Here the check is told from the text that widening writes. A line is narrow if each of its
hexadecimal fields has two digits, and a row is let through exactly if its line is narrow
(`isNarrowLine_text_iff`). So strict writing gives that text if all lines of rows are
narrow, and else names the first row whose line is not.
-/

namespace DecoderKit

/-- Each hexadecimal field of the line has exactly two digits. -/
def IsNarrowLine (line : Text) : Prop :=
  ∀ digits, '0' :: 'x' :: digits ∈ line.splitOn ',' → Numeral.IsHexPair digits

namespace Row

/-- The hexadecimal fields of a row are those of its state and of its baseline. -/
theorem marked_mem_fields_iff {row : Row} {digits : Text} : '0' :: 'x' :: digits ∈ row.fields
    ↔ digits = Numeral.hexByte row.state.toNat ∨ digits = Numeral.hexByte row.baseline.toNat := by
  -- the number of bits has no marker, since the letter in it is no decimal digit
  have hbits : '0' :: 'x' :: digits ≠ Numeral.decimal row.bits.toNat := by
    intro h
    have hx : 'x' ∈ Nat.toDigits 10 row.bits.toNat := by
      rw [← Numeral.decimal, ← h]
      simp
    obtain ⟨d, hd, hxd⟩ := Numeral.mem_toDigits (by decide) hx
    have hdigit : ∀ d < 10, 'x' ≠ Nat.digitChar d := by decide
    exact hdigit d hd hxd
  simp [fields, hexField, hbits]

theorem isNarrowLine_text_iff {row : Row} : IsNarrowLine row.text ↔ ¬ row.IsWide := by
  have hpairs : IsNarrowLine row.text ↔ Numeral.IsHexPair (Numeral.hexByte row.state.toNat)
      ∧ Numeral.IsHexPair (Numeral.hexByte row.baseline.toNat) := by
    unfold IsNarrowLine
    rw [splitOn_text]
    constructor
    · intro h
      exact ⟨h _ (marked_mem_fields_iff.mpr (Or.inl rfl)),
        h _ (marked_mem_fields_iff.mpr (Or.inr rfl))⟩
    · rintro ⟨hstate, hbaseline⟩ digits hdigits
      rcases marked_mem_fields_iff.mp hdigits with rfl | rfl
      · exact hstate
      · exact hbaseline
  rw [hpairs, Numeral.isHexPair_hexByte_iff, Numeral.isHexPair_hexByte_iff, IsWide]
  omega

end Row

namespace Table

/-- The lines of a written table that stand for rows. -/
def rowLines (header : Bool) (t : Text) : List Text :=
  (Text.lines t).drop (if header then 1 else 0)

theorem rowLines_tableLines (header : Bool) (rows : List Row) :
    rowLines header ((tableLines header rows).flatMap fun line => line ++ ['\n'])
      = rows.map Row.text := by
  rw [rowLines, lines_tableLines, tableLines]
  cases header <;> rfl

/-- All rows fit if the lines that stand for them are narrow. -/
theorem narrow_lines_iff {rows : List Row} :
    (∀ line ∈ rows.map Row.text, IsNarrowLine line) ↔ checkWidth rows .strict = .ok () := by
  rw [checkWidth_strict_eq_ok_iff, List.forall_mem_map]
  constructor
  · intro h row hrow
    exact Row.isNarrowLine_text_iff.mp (h row hrow)
  · intro h row hrow
    exact Row.isNarrowLine_text_iff.mpr (h row hrow)

/-- **Strict writing writes what widening writes, if every hexadecimal field in the lines of the
rows has two digits.** Else it fails, and names the first row with a line that is not so. -/
theorem writeWith_strict_narrow {writer : RecordWriter} (hw : writer.IsVerbatim) (header : Bool)
    (rows : List Row) :
    ∃ wide, writeWith writer { header, width := .widen } rows = .ok wide
      ∧ rowLines header wide = rows.map Row.text
      ∧ ((∃ t, writeWith writer { header, width := .strict } rows = .ok t)
        ↔ ∀ line ∈ rowLines header wide, IsNarrowLine line)
      ∧ (∀ t, writeWith writer { header, width := .strict } rows = .ok t → t = wide)
      ∧ ∀ fault, writeWith writer { header, width := .strict } rows = .error fault ↔
        ∃ front row rear reason, rows = front ++ row :: rear
          ∧ (∀ r ∈ front, IsNarrowLine r.text) ∧ ¬ IsNarrowLine row.text
          ∧ fault = .malformedRow (front.length + 1) reason
          ∧ reason = .tooWide row.state row.baseline
          ∧ reason.text = "state ".toList ++ Numeral.decimal row.state.toNat
            ++ " or baseline ".toList ++ Numeral.decimal row.baseline.toNat
            ++ " does not fit in two hex digits".toList := by
  have hstrict := writeWith_eq hw { header, width := .strict } rows
  refine ⟨_, writeWith_eq hw { header, width := .widen } rows, rowLines_tableLines header rows,
    ?_, fun t ht => ?_, fun fault => ?_⟩
  · -- the check is all that can keep strict writing from writing
    rw [rowLines_tableLines, narrow_lines_iff, hstrict]
    cases checkWidth rows .strict with
    | error fault => simp [Except.map]
    | ok _ => simp [Except.map]
  · rw [hstrict] at ht
    cases hcheck : checkWidth rows .strict with
    | error fault =>
        rw [hcheck] at ht
        exact absurd ht (by simp [Except.map])
    | ok _ =>
        rw [hcheck] at ht
        exact (Except.ok.inj ht).symm
  · rw [hstrict, map_eq_error_iff, checkWidth_strict_eq_error_iff]
    -- wide rows and lines that are not narrow are the same, row by row
    constructor
    · rintro ⟨front, row, rear, hrows, hfront, hrow, hfault⟩
      refine ⟨front, row, rear, _, hrows, fun r hr => ?_, fun hnarrow => ?_, hfault, rfl, rfl⟩
      · exact Row.isNarrowLine_text_iff.mpr (hfront r hr)
      · exact Row.isNarrowLine_text_iff.mp hnarrow hrow
    · rintro ⟨front, row, rear, _, hrows, hfront, hrow, hfault, rfl, _⟩
      refine ⟨front, row, rear, hrows, fun r hr => ?_, ?_, hfault⟩
      · exact Row.isNarrowLine_text_iff.mp (hfront r hr)
      · by_contra hfits
        exact hrow (Row.isNarrowLine_text_iff.mpr hfits)

/-- A baseline of `0xff` fits and one of `0x100` does not. -/
theorem writeWith_strict_narrow_boundary :
    recordWriter.IsVerbatim
      ∧ writeWith recordWriter { header := true, width := .strict } [⟨7, 1, 2, 255⟩]
        = .ok "State,Sym,BL,NB\n0x07,s1,0xff,2\n".toList
      ∧ (∀ line ∈ rowLines true "State,Sym,BL,NB\n0x07,s1,0xff,2\n".toList, IsNarrowLine line)
      ∧ writeWith recordWriter { header := true, width := .strict }
          [⟨7, 1, 2, 255⟩, ⟨9, 0, 4, 256⟩] = .error (.malformedRow 2 (.tooWide 9 256))
      ∧ ¬ ∀ line ∈ rowLines true "State,Sym,BL,NB\n0x07,s1,0xff,2\n0x09,s0,0x100,4\n".toList,
          IsNarrowLine line := by
  have hfits : writeWith recordWriter { header := true, width := .strict } [⟨7, 1, 2, 255⟩]
      = .ok "State,Sym,BL,NB\n0x07,s1,0xff,2\n".toList := by decide +kernel
  have hwide : writeWith recordWriter { header := true, width := .widen }
      [⟨7, 1, 2, 255⟩, ⟨9, 0, 4, 256⟩]
      = .ok "State,Sym,BL,NB\n0x07,s1,0xff,2\n0x09,s0,0x100,4\n".toList := by decide +kernel
  have hfault : writeWith recordWriter { header := true, width := .strict }
      [⟨7, 1, 2, 255⟩, ⟨9, 0, 4, 256⟩] = .error (.malformedRow 2 (.tooWide 9 256)) := by
    decide +kernel
  obtain ⟨t, _, _, hiff, hsame, _⟩ :=
    writeWith_strict_narrow recordWriter_isVerbatim true [⟨7, 1, 2, 255⟩]
  obtain ⟨t', ht', _, hiff', _⟩ :=
    writeWith_strict_narrow recordWriter_isVerbatim true [⟨7, 1, 2, 255⟩, ⟨9, 0, 4, 256⟩]
  refine ⟨recordWriter_isVerbatim, hfits, ?_, hfault, ?_⟩
  · rw [hsame _ hfits]
    exact hiff.mp ⟨_, hfits⟩
  · rw [Except.ok.inj (hwide.symm.trans ht'), ← hiff', hfault]
    simp

end Table

end DecoderKit
