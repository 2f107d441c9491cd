import DecoderKit.Proofs.Sweep
import DecoderKit.Table.Conversion

/-!
# The width check and the ways in which a conversion fails

The check refuses the first row that is too wide and gives its place among the rows,
counted from one. It sees rows only, so the place is not one in any text.

A conversion adds no faults of its own. It fails as reading fails or as the check
fails, and the way in which the rows are written has no part in it.
-/

namespace DecoderKit

/-- The state or the baseline takes more than two hexadecimal digits. -/
def Row.IsWide (row : Row) : Prop := 0xff < row.state.toNat ∨ 0xff < row.baseline.toNat

theorem Row.fitsByte_iff {row : Row} : row.fitsByte = true ↔ ¬ row.IsWide := by
  have hff : (0xff : UInt32).toNat = 0xff := rfl
  rw [fitsByte, Bool.and_eq_true, decide_eq_true_eq, decide_eq_true_eq, UInt32.le_iff_toNat_le,
    UInt32.le_iff_toNat_le, hff, IsWide]
  omega

theorem Row.not_fitsByte_iff {row : Row} : (!row.fitsByte) = true ↔ row.IsWide := by
  rw [Bool.not_eq_true', ← Bool.not_eq_true, Row.fitsByte_iff, Classical.not_not]

namespace Table

/-- Every row fits, or there is a first that does not. -/
theorem exists_first_wide (rows : List Row) : (∀ row ∈ rows, ¬ row.IsWide)
    ∨ ∃ front row rear, rows = front ++ row :: rear ∧ (∀ r ∈ front, ¬ r.IsWide) ∧ row.IsWide := by
  -- the search for a row that does not fit is the one that the check makes
  cases hfind : rows.find? (fun row => !row.fitsByte) with
  | none =>
      refine Or.inl fun row hrow hwide => ?_
      exact List.find?_eq_none.mp hfind row hrow (Row.not_fitsByte_iff.mpr hwide)
  | some row =>
      obtain ⟨hrow, front, rear, hrows, hfront⟩ := List.find?_eq_some_iff_append.mp hfind
      refine Or.inr ⟨front, row, rear, hrows, fun r hr => ?_, Row.not_fitsByte_iff.mp hrow⟩
      rw [← Row.fitsByte_iff]
      simpa using hfront r hr

/-- The numbers of the rows make no difference to whether all of them fit. -/
theorem find?_zipIdx_eq_none {rows : List Row} (h : ∀ row ∈ rows, ¬ row.IsWide) (n : Nat) :
    (rows.zipIdx n).find? (fun row => !row.1.fitsByte) = none := by
  rw [List.find?_eq_none]
  intro row hrow hwide
  exact h row.1 (List.fst_mem_of_mem_zipIdx hrow) (Row.not_fitsByte_iff.mp hwide)

/-- A row that is too wide is the one that is named, if no row before it is. -/
theorem checkWidth_of_wide {front rear : List Row} {row : Row} (hfront : ∀ r ∈ front, ¬ r.IsWide)
    (hrow : row.IsWide) : checkWidth (front ++ row :: rear) .strict
      = .error (.malformedRow (front.length + 1) (.tooWide row.state row.baseline)) := by
  have hfind : ((row, 1 + front.length) :: rear.zipIdx (1 + front.length + 1)).find?
      (fun row => !row.1.fitsByte) = some (row, 1 + front.length) :=
    List.find?_cons_of_pos (a := (row, 1 + front.length)) (Row.not_fitsByte_iff.mpr hrow)
  rw [checkWidth, List.zipIdx_append, List.find?_append, find?_zipIdx_eq_none hfront,
    List.zipIdx_cons, hfind, Nat.add_comm 1]
  rfl

/-- **The strict check passes when every row fits, and else names the first that does not.** -/
theorem checkWidth_strict_cases (rows : List Row) :
    (checkWidth rows .strict = .ok () ∧ ∀ row ∈ rows, ¬ row.IsWide)
      ∨ ∃ front row rear, rows = front ++ row :: rear ∧ (∀ r ∈ front, ¬ r.IsWide) ∧ row.IsWide
        ∧ checkWidth rows .strict
          = .error (.malformedRow (front.length + 1) (.tooWide row.state row.baseline)) := by
  rcases exists_first_wide rows with hall | ⟨front, row, rear, rfl, hfront, hrow⟩
  · exact Or.inl ⟨by rw [checkWidth, find?_zipIdx_eq_none hall], hall⟩
  · exact Or.inr ⟨front, row, rear, rfl, hfront, hrow, checkWidth_of_wide hfront hrow⟩

theorem checkWidth_strict_eq_ok_iff {rows : List Row} :
    checkWidth rows .strict = .ok () ↔ ∀ row ∈ rows, ¬ row.IsWide := by
  rcases checkWidth_strict_cases rows with ⟨hok, hall⟩ | ⟨front, row, rear, hrows, _, hrow, he⟩
  · exact ⟨fun _ => hall, fun _ => hok⟩
  · rw [he]
    refine ⟨fun h => absurd h (by simp), fun hall => ?_⟩
    exact absurd hrow (hall row (by rw [hrows]; simp))

theorem checkWidth_strict_eq_error_iff {rows : List Row} {fault : Fault} :
    checkWidth rows .strict = .error fault ↔
      ∃ front row rear, rows = front ++ row :: rear ∧ (∀ r ∈ front, ¬ r.IsWide) ∧ row.IsWide
        ∧ fault = .malformedRow (front.length + 1) (.tooWide row.state row.baseline) := by
  constructor
  · intro h
    rcases checkWidth_strict_cases rows with ⟨hok, _⟩ | ⟨front, row, rear, hrows, hfront, hrow, he⟩
    · rw [hok] at h
      exact absurd h (by simp)
    · rw [he] at h
      exact ⟨front, row, rear, hrows, hfront, hrow, (Except.error.inj h).symm⟩
  · rintro ⟨front, row, rear, rfl, hfront, hrow, rfl⟩
    exact checkWidth_of_wide hfront hrow

/-- What a fault of the width check says. -/
theorem checkWidth_error {rows : List Row} {width : HexWidth} {fault : Fault}
    (h : checkWidth rows width = .error fault) :
    width = .strict ∧ ∃ front row rear, rows = front ++ row :: rear
      ∧ (∀ r ∈ front, ¬ r.IsWide) ∧ row.IsWide
      ∧ fault = .malformedRow (front.length + 1) (.tooWide row.state row.baseline) := by
  cases width with
  | widen => exact absurd h (by simp [checkWidth])
  | strict => exact ⟨rfl, checkWidth_strict_eq_error_iff.mp h⟩

/-- What is written depends on the check only in whether it is written. -/
theorem write_eq (style : Style) (rows : List Row) :
    write style rows = (checkWidth rows style.width).map fun _ =>
      (records style.header rows).flatMap Record.write := by
  rw [write, writeWith]
  cases checkWidth rows style.width <;> rfl

theorem Conversion.write_eq (conversion : Conversion) (rows : List Row) :
    conversion.write rows = (checkWidth rows conversion.style.width).map fun _ =>
      if conversion.json then writeJson rows
      else (records conversion.style.header rows).flatMap Record.write := by
  have hlines : writeWith recordWriter conversion.style rows = Table.write conversion.style rows :=
    rfl
  rw [Conversion.write, writeUsing, hlines, Table.write_eq]
  -- JSON checks first and prints then, and the writer of lines has its own check
  by_cases hjson : conversion.json = true
  · rw [if_pos hjson]
    simp only [if_pos hjson]
    cases checkWidth rows conversion.style.width <;> rfl
  · rw [if_neg hjson]
    simp only [if_neg hjson]

/-- The lines and the JSON of a table are refused alike. -/
theorem Conversion.write_eq_error_iff {conversion : Conversion} {rows : List Row}
    {fault : Fault} : conversion.write rows = .error fault
      ↔ checkWidth rows conversion.style.width = .error fault := by
  rw [Conversion.write_eq, map_eq_error_iff]

/-- **A conversion fails as reading fails, or as the check fails.** -/
theorem Conversion.convert_eq_error_iff {conversion : Conversion} {t : Text} {fault : Fault} :
    conversion.convert t = .error fault ↔ read t = .error fault
      ∨ ∃ rows, read t = .ok rows ∧ checkWidth rows conversion.style.width = .error fault := by
  rw [Conversion.convert, convertWith]
  cases hread : read t with
  | error fault' =>
      refine ⟨fun h => Or.inl (congrArg _ (Except.error.inj h)), fun h => ?_⟩
      rcases h with h | ⟨rows, hrows, _⟩
      · exact congrArg _ (Except.error.inj h)
      · exact absurd hrows (by simp)
  | ok rows =>
      refine ⟨fun h => Or.inr ⟨rows, rfl, Conversion.write_eq_error_iff.mp h⟩, fun h => ?_⟩
      rcases h with h | ⟨rows', hrows, h⟩
      · exact absurd h (by simp)
      · rw [← Except.ok.inj hrows] at h
        exact Conversion.write_eq_error_iff.mpr h

end Table

end DecoderKit
