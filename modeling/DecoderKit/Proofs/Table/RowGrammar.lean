import DecoderKit.Proofs.Sweep
import DecoderKit.Proofs.Text.Numerals
import DecoderKit.Proofs.Text.Pieces
import DecoderKit.Table.Row

/-!
# Which lines are rows, and why the others are not

A line is a row when it has four columns and each is a decimal numeral of a 32-bit
number. `IsRow` says so without the reader: the columns are what stands between the
blanks of the line, and the numerals are those of the grammar.

A line that is no row is refused for exactly one reason. With another number of
columns than four it is that number, and no column is looked at. With four columns
it is the leftmost that is no numeral, and what is wrong with that one alone.
-/

namespace DecoderKit.Row

open Numeral (IsDecimal)

/-! ## One column -/

/-- A column is accepted when it is a decimal numeral of a 32-bit number, with that number. -/
theorem readColumn_eq_ok_iff {column : Text} {v : UInt32} :
    readColumn column = .ok v ↔ IsDecimal column v.toNat := by
  unfold readColumn
  refine ⟨fun h => ?_, fun h => ?_⟩
  · split at h
    · rename_i n hn
      obtain ⟨hdec, hle⟩ := Numeral.read_ten_eq_ok_iff.mp hn
      have hlt : n < UInt32.size := Nat.lt_succ_of_le hle
      rw [← Except.ok.inj h, UInt32.toNat_ofNat_of_lt' hlt]
      exact hdec
    · exact absurd h (by simp)
    · exact absurd h (by simp)
  · rw [Numeral.read_ten_eq_ok_iff.mpr ⟨h, toNat_le_columnBound v⟩]
    exact congrArg Except.ok UInt32.ofNat_toNat

/-- The digits that a column starts with, behind its plus sign if it has one. -/
def columnDigits (column : Text) : Text := (Numeral.unsigned column).takeWhile Char.isDigit

/-- What is wrong with a column that is no numeral: it may have grown too large on the way. -/
def columnFault (column : Text) : RowFault :=
  if columnBound < Nat.ofDigitChars 10 (columnDigits column) 0 then .tooLarge column
  else .notANumber column

/-- The two reasons for which a column is refused are told in different words. -/
theorem tooLarge_text_ne (column : Text) :
    (RowFault.tooLarge column).text ≠ (RowFault.notANumber column).text := by
  intro htext
  have hwords : " is larger than 4294967295".toList = " is not a non-negative integer".toList :=
    List.append_cancel_left htext
  exact absurd hwords (by decide)

theorem readColumn_error {column : Text} {reason : RowFault}
    (h : readColumn column = .error reason) : reason = columnFault column := by
  have hdigits : ∀ c ∈ columnDigits column, c.isDigit = true :=
    fun _ hc => List.mem_takeWhile_imp hc
  have hread := Numeral.read_eq (show 0 < 10 by omega) columnBound column
  rw [Numeral.leadingDigits_ten, ← columnDigits,
    Numeral.valueFrom_ten hdigits] at hread
  rw [readColumn, hread] at h
  rw [columnFault]
  by_cases hlt : columnBound < Nat.ofDigitChars 10 (columnDigits column) 0
  · rw [if_pos hlt] at h ⊢
    exact (Except.error.inj h).symm
  · -- within the bound, so either the column was accepted or a character of it is no digit
    rw [if_neg hlt] at h ⊢
    split at h
    · rename_i hok
      split at hok <;> exact absurd h (by simp)
    · rename_i hbad
      split at hbad <;> exact absurd hbad (by simp)
    · exact (Except.error.inj h).symm

/-- A column is refused when it is no numeral of a 32-bit number. -/
theorem readColumn_eq_error_iff {column : Text} {reason : RowFault} :
    readColumn column = .error reason
      ↔ (¬ ∃ v : UInt32, IsDecimal column v.toNat) ∧ reason = columnFault column := by
  refine ⟨fun h => ⟨fun hyes => ?_, readColumn_error h⟩, fun h => ?_⟩
  · obtain ⟨v, hv⟩ := hyes
    rw [readColumn_eq_ok_iff.mpr hv] at h
    exact absurd h (by simp)
  · obtain ⟨hno, hreason⟩ := h
    cases hread : readColumn column with
    | ok v => exact absurd ⟨v, readColumn_eq_ok_iff.mp hread⟩ hno
    | error e => rw [hreason, ← readColumn_error hread]

/-! ## A line -/

/-- The line is this row: four columns between blanks, each the numeral of a 32-bit number. -/
def IsRow (line : Text) (row : Row) : Prop :=
  ∃ state symbol bits baseline : Text,
    Spaced Text.isBlank line [state, symbol, bits, baseline]
      ∧ IsDecimal state row.state.toNat ∧ IsDecimal symbol row.symbol.toNat
      ∧ IsDecimal bits row.bits.toNat ∧ IsDecimal baseline row.baseline.toNat

/-- The reason for which columns are refused. -/
inductive Refused : List Text → RowFault → Prop where
  /-- Their number is not four. -/
  | count {columns : List Text} :
      columns.length ≠ 4 → Refused columns (.columnCount columns.length)
  /-- There are four, and this is the leftmost that is no numeral of a 32-bit number. -/
  | column {before after : List Text} {column : Text} :
      (before ++ column :: after).length = 4 →
      (∀ c ∈ before, ∃ v : UInt32, IsDecimal c v.toNat) →
      (¬ ∃ v : UInt32, IsDecimal column v.toNat) →
      Refused (before ++ column :: after) (columnFault column)

/-- A row from the numbers in its columns. -/
def ofColumns : List UInt32 → Row
  | [state, symbol, bits, baseline] => { state, symbol, bits, baseline }
  | _ => { state := 0, symbol := 0, bits := 0, baseline := 0 }

/-- Four columns are read one after the other. -/
theorem ofLine_of_length {line : Text} (h : (Text.words line).length = 4) :
    ofLine line = ((Text.words line).mapM readColumn).map ofColumns := by
  obtain ⟨a, b, c, d, hw⟩ := List.length_eq_four.mp h
  rw [ofLine, hw]
  simp only [List.mapM_cons, List.mapM_nil]
  cases readColumn a <;> cases readColumn b <;> cases readColumn c <;> cases readColumn d <;> rfl

theorem ofLine_of_length_ne {line : Text} (h : (Text.words line).length ≠ 4) :
    ofLine line = .error (.columnCount (Text.words line).length) := by
  rw [ofLine]
  split
  · rename_i hw
    rw [hw] at h
    exact absurd rfl h
  · rfl

/-- A line is read by its words. -/
theorem ofLine_congr {line line' : Text} (h : Text.words line = Text.words line') :
    ofLine line = ofLine line' := by
  unfold ofLine
  rw [h]

/-- **A line is accepted when it is a row, with that row.** -/
theorem ofLine_eq_ok_iff {line : Text} {row : Row} : ofLine line = .ok row ↔ IsRow line row := by
  refine ⟨fun h => ?_, fun h => ?_⟩
  · by_cases hlen : (Text.words line).length = 4
    · obtain ⟨a, b, c, d, hw⟩ := List.length_eq_four.mp hlen
      rw [ofLine_of_length hlen, hw] at h
      cases hm : [a, b, c, d].mapM readColumn with
      | error e => rw [hm] at h; exact absurd h (by simp [Except.map])
      | ok vs =>
          rw [hm] at h
          have hrow : ofColumns vs = row := Except.ok.inj h
          -- one number for each of the four columns
          obtain _ | ⟨ha, _ | ⟨hb, _ | ⟨hc, _ | ⟨hd, _ | _⟩⟩⟩⟩ := mapM_eq_ok_iff.mp hm
          subst hrow
          exact ⟨a, b, c, d, Text.words_eq_iff.mp hw, readColumn_eq_ok_iff.mp ha,
            readColumn_eq_ok_iff.mp hb, readColumn_eq_ok_iff.mp hc, readColumn_eq_ok_iff.mp hd⟩
    · rw [ofLine_of_length_ne hlen] at h
      exact absurd h (by simp)
  · obtain ⟨a, b, c, d, hspaced, ha, hb, hc, hd⟩ := h
    have hw := Text.words_eq_iff.mpr hspaced
    have hm : [a, b, c, d].mapM readColumn
        = .ok [row.state, row.symbol, row.bits, row.baseline] :=
      mapM_eq_ok_iff.mpr (.cons (readColumn_eq_ok_iff.mpr ha) (.cons (readColumn_eq_ok_iff.mpr hb)
        (.cons (readColumn_eq_ok_iff.mpr hc) (.cons (readColumn_eq_ok_iff.mpr hd) .nil))))
    rw [ofLine_of_length (by rw [hw]; rfl), hw, hm]
    rfl

/-- **A line is refused for exactly one reason.** -/
theorem ofLine_eq_error_iff {line : Text} {reason : RowFault} :
    ofLine line = .error reason ↔ Refused (Text.words line) reason := by
  -- with four columns the sweep over them decides, else their number
  by_cases hlen : (Text.words line).length = 4
  · rw [ofLine_of_length hlen]
    refine ⟨fun h => ?_, fun h => ?_⟩
    · cases hm : (Text.words line).mapM readColumn with
      | ok vs => rw [hm] at h; exact absurd h (by simp [Except.map])
      | error e =>
          rw [hm] at h
          obtain ⟨before, column, after, hw, hbefore, hcolumn⟩ := mapM_eq_error_iff.mp hm
          obtain ⟨hno, he⟩ := readColumn_eq_error_iff.mp hcolumn
          rw [← Except.error.inj h, he, hw]
          refine Refused.column (by rw [← hw]; exact hlen) (fun c hc => ?_) hno
          obtain ⟨v, hv⟩ := hbefore c hc
          exact ⟨v, readColumn_eq_ok_iff.mp hv⟩
    · generalize Text.words line = columns at hlen h
      cases h with
      | count hne => exact absurd hlen hne
      | @column before after column _ hbefore hno =>
          have hm : (before ++ column :: after).mapM readColumn = .error (columnFault column) := by
            refine mapM_eq_error_iff.mpr ⟨before, column, after, rfl, fun c hc => ?_,
              readColumn_eq_error_iff.mpr ⟨hno, rfl⟩⟩
            obtain ⟨v, hv⟩ := hbefore c hc
            exact ⟨v, readColumn_eq_ok_iff.mpr hv⟩
          rw [hm]
          rfl
  · rw [ofLine_of_length_ne hlen]
    refine ⟨fun h => ?_, fun h => ?_⟩
    · rw [← Except.error.inj h]
      exact Refused.count hlen
    · generalize Text.words line = columns at hlen h
      cases h with
      | count _ => rfl
      | column hfour _ _ => exact absurd hfour hlen

/-- A blank line is no row: it has no columns at all. -/
theorem ofLine_of_isBlankLine {line : Text} (h : Text.isBlankLine line = true) :
    ofLine line = .error (.columnCount 0) := by
  have hw := Text.words_eq_nil_iff.mpr h
  have hlen : (Text.words line).length ≠ 4 := by rw [hw]; exact Nat.zero_ne_add_one 3
  rw [ofLine_of_length_ne hlen, hw]
  rfl

/-- No other line is refused for having no columns. -/
theorem ofLine_eq_columnCount_zero_iff {line : Text} :
    ofLine line = .error (.columnCount 0) ↔ Text.isBlankLine line = true := by
  refine ⟨fun h => ?_, ofLine_of_isBlankLine⟩
  rw [← Text.words_eq_nil_iff]
  have hrefused := ofLine_eq_error_iff.mp h
  generalize hreason : RowFault.columnCount 0 = reason at hrefused
  generalize Text.words line = columns at hrefused ⊢
  cases hrefused with
  | count _ => exact List.length_eq_zero_iff.mp (RowFault.columnCount.inj hreason).symm
  | @column before after column _ _ _ =>
      -- a column is wrong in another way
      rw [columnFault] at hreason
      split at hreason <;> exact absurd hreason (by simp)

end DecoderKit.Row
