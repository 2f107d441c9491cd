import DecoderKit.Proofs.Table.Block

/-!
# What is wrong with a column

A column is read digit by digit, and two things can go wrong on the way: the value leaves the
range of 32-bit numbers, or a character is no digit. Whichever comes first is reported, and a
digit may stand on either side of the other failure. Still the diagnosis depends on no order of
events. Behind at most one plus sign a column begins with a run of digits (`Begins`). If the value
of the run is out of range, so is that of some part of it already, and nothing behind the run has
been looked at. If it is in range, every part of it is, and the reader gets to what follows.

So the value of the run decides (`columnFault_of_begins`), and what stands behind it only matters
if that is in range. Other columns matter if they stand further to the left, and then only by being
numerals.
-/

namespace DecoderKit

namespace Row

open Numeral (IsDecimal IsDigits)

/-- The column begins with these digits, behind one plus sign if it has any, and the rest does not
begin with another digit. -/
structure Begins (column digits rest : Text) : Prop where
  eq : column = '+' :: (digits ++ rest) ∨ column = digits ++ rest ∧ column.head? ≠ some '+'
  digits : ∀ c ∈ digits, c.isDigit = true
  rest : ∀ c ∈ rest.head?, c.isDigit = false

variable {column digits rest : Text}

/-! ## The run of digits -/

theorem Begins.unsigned_eq (h : Begins column digits rest) :
    Numeral.unsigned column = digits ++ rest := by
  rcases h.eq with hsigned | ⟨hbare, hhead⟩
  · rw [hsigned]
    rfl
  · rw [Numeral.unsigned_eq_self ?_, hbare]
    rintro ⟨tail, htail⟩
    exact hhead (by rw [htail]; rfl)

/-- A column begins with one run of digits. -/
theorem Begins.columnDigits_eq (h : Begins column digits rest) : columnDigits column = digits := by
  rw [columnDigits, h.unsigned_eq]
  exact takeWhile_append_eq h.digits h.rest

theorem exists_begins (column : Text) : ∃ digits rest, Begins column digits rest := by
  refine ⟨columnDigits column, (Numeral.unsigned column).dropWhile Char.isDigit, ?_, ?_, ?_⟩
  · rw [columnDigits, List.takeWhile_append_dropWhile]
    by_cases hsign : ∃ tail, column = '+' :: tail
    · obtain ⟨tail, rfl⟩ := hsign
      exact Or.inl rfl
    · refine Or.inr ⟨(Numeral.unsigned_eq_self hsign).symm, ?_⟩
      intro hhead
      exact hsign (List.head?_eq_some_iff.mp hhead)
  · intro c hc
    exact List.mem_takeWhile_imp hc
  · intro c hc
    have hnot := List.head?_dropWhile_not Char.isDigit (Numeral.unsigned column)
    rwa [Option.mem_def.mp hc] at hnot

/-- Nothing stands behind the digits of a numeral. -/
theorem Begins.rest_eq_nil (h : Begins column digits rest) {n : Nat}
    (hn : IsDigits (digits ++ rest) n) : rest = [] := by
  cases rest with
  | nil => rfl
  | cons c rest =>
      have hdigit := hn.digits c (by simp)
      rw [h.rest c rfl] at hdigit
      exact Bool.noConfusion hdigit

/-- **The run of digits decides what is wrong.** -/
theorem columnFault_of_begins (h : Begins column digits rest) : columnFault column
    = if columnBound < Nat.ofDigitChars 10 digits 0 then .tooLarge column
      else .notANumber column := by
  rw [columnFault, h.columnDigits_eq]

/-- A column is a numeral of a 32-bit number if it is a run of digits whose value is in range. -/
theorem exists_isDecimal_iff (h : Begins column digits rest) :
    (∃ v : UInt32, IsDecimal column v.toNat)
      ↔ digits ≠ [] ∧ rest = [] ∧ Nat.ofDigitChars 10 digits 0 ≤ columnBound := by
  simp only [Numeral.isDecimal_iff, h.unsigned_eq]
  constructor
  · -- a numeral is all digits, so the run is the whole of it
    rintro ⟨v, hv⟩
    obtain rfl := h.rest_eq_nil hv
    rw [List.append_nil] at hv
    exact ⟨hv.nonempty, rfl, hv.value ▸ toNat_le_columnBound v⟩
  · rintro ⟨hne, rfl, hle⟩
    have hlt : Nat.ofDigitChars 10 digits 0 < UInt32.size := Nat.lt_succ_of_le hle
    refine ⟨UInt32.ofNat (Nat.ofDigitChars 10 digits 0), ?_⟩
    rw [List.append_nil, UInt32.toNat_ofNat_of_lt' hlt]
    exact ⟨hne, h.digits, rfl⟩

/-- Zeros in front of digits do not change their value. -/
theorem isDigits_zeros {t : Text} {n : Nat} (h : IsDigits t n) (zeros : Nat) :
    IsDigits (List.replicate zeros '0' ++ t) n := by
  have hdigits : ∀ c ∈ List.replicate zeros '0' ++ t, c.isDigit = true := by
    intro c hc
    rcases List.mem_append.mp hc with hc | hc
    · rw [List.eq_of_mem_replicate hc]
      rfl
    · exact h.digits c hc
  refine ⟨List.append_ne_nil_of_right_ne_nil _ h.nonempty, hdigits, ?_⟩
  rw [← Numeral.valueFrom_ten hdigits, Numeral.valueFrom_zeros (by decide),
    Numeral.valueFrom_ten h.digits, h.value]

/-! ## The words of the reason -/

/-- What is wrong with a column is told in one of two ways, and the words say in which. -/
theorem columnFault_text_iff (h : Begins column digits rest) :
    ((columnFault column).text = Quoted.quote column ++ " is larger than 4294967295".toList
        ↔ columnBound < Nat.ofDigitChars 10 digits 0)
      ∧ ((columnFault column).text
          = Quoted.quote column ++ " is not a non-negative integer".toList
        ↔ ¬ columnBound < Nat.ofDigitChars 10 digits 0) := by
  have hne := tooLarge_text_ne column
  -- no column is told of in both ways, so each of the two decides the other
  rw [columnFault_of_begins h]
  split
  · rename_i hlt
    exact ⟨iff_of_true rfl hlt, iff_of_false hne (not_not_intro hlt)⟩
  · rename_i hle
    exact ⟨iff_of_false hne.symm hle, iff_of_true rfl hle⟩

/-- A column is accepted with the value of its digits, as a 32-bit number that is not reduced. -/
theorem readColumn_eq_ok_iff_of_begins (h : Begins column digits rest) {v : UInt32} :
    readColumn column = .ok v
      ↔ digits ≠ [] ∧ rest = [] ∧ Nat.ofDigitChars 10 digits 0 = v.toNat := by
  rw [readColumn_eq_ok_iff, Numeral.isDecimal_iff, h.unsigned_eq]
  constructor
  · intro hv
    obtain rfl := h.rest_eq_nil hv
    rw [List.append_nil] at hv
    exact ⟨hv.nonempty, rfl, hv.value⟩
  · rintro ⟨hne, rfl, hvalue⟩
    rw [List.append_nil]
    exact ⟨hne, h.digits, hvalue⟩

end Row

namespace Table

open Numeral (IsDecimal IsDigits)

variable {number : Nat} {line column digits rest : Text} {before after : List Text}

/-- The line is refused under this number, for a reason in these words. -/
def RefusedAs (number : Nat) (line words : Text) : Prop :=
  ∃ reason, readRow number line = .error (.malformedRow number reason) ∧ reason.text = words

/-- The leftmost column that is no numeral is what a line of four columns is refused for. -/
theorem readRow_of_column (hline : Spaced Text.isBlank line (before ++ column :: after))
    (hfour : (before ++ column :: after).length = 4)
    (hbefore : ∀ c ∈ before, ∃ v : UInt32, IsDecimal c v.toNat)
    (hcolumn : ¬ ∃ v : UInt32, IsDecimal column v.toNat) (number : Nat) :
    readRow number line = .error (.malformedRow number (Row.columnFault column)) := by
  have hrefused := Row.Refused.column hfour hbefore hcolumn
  rw [← Text.words_eq_iff.mpr hline] at hrefused
  exact readRow_eq_error_iff.mpr ⟨_, Row.ofLine_eq_error_iff.mpr hrefused, rfl⟩

theorem refusedAs_iff {reason : RowFault} {words : Text}
    (h : readRow number line = .error (.malformedRow number reason)) :
    RefusedAs number line words ↔ reason.text = words := by
  constructor
  · rintro ⟨reason', hread, hwords⟩
    rw [h] at hread
    rw [(Fault.malformedRow.inj (Except.error.inj hread)).2, hwords]
  · intro hwords
    exact ⟨reason, h, hwords⟩

/-- **The value of the digits that a column begins with decides what is wrong with it.** Of a line
with four columns, take the leftmost that is no numeral of a 32-bit number. If the value of its
digits is out of range, the column is said to be too large, whatever follows them. It is said to be
no integer if it has no digits, or if their value is in range and something else follows. What
stands in the columns to the right makes no difference. Any column begins with such digits, be it
with none. A column that is accepted has the value of its digits, with zeros in front or without,
and so have all columns of a row. -/
theorem column_diagnosis (number : Nat) :
    (∀ (line : Text) (before after : List Text) (column digits rest : Text),
      Spaced Text.isBlank line (before ++ column :: after) →
      (before ++ column :: after).length = 4 →
      (∀ c ∈ before, ∃ v : UInt32, IsDecimal c v.toNat) →
      (¬ ∃ v : UInt32, IsDecimal column v.toNat) → Row.Begins column digits rest →
      (RefusedAs number line (Quoted.quote column ++ " is larger than 4294967295".toList)
          ↔ 4294967295 < Nat.ofDigitChars 10 digits 0)
        ∧ (RefusedAs number line (Quoted.quote column ++ " is not a non-negative integer".toList)
          ↔ digits = [] ∨ Nat.ofDigitChars 10 digits 0 ≤ 4294967295
            ∧ ∃ c ∈ rest.head?, c.isDigit = false)
        ∧ ∀ line' after', Spaced Text.isBlank line' (before ++ column :: after') →
          after'.length = after.length → readRow number line' = readRow number line)
      ∧ (∀ column, ∃ digits rest, Row.Begins column digits rest)
      ∧ (∀ column digits rest v, Row.Begins column digits rest →
        (Row.readColumn column = .ok v
          ↔ digits ≠ [] ∧ rest = [] ∧ Nat.ofDigitChars 10 digits 0 = v.toNat))
      ∧ (∀ sign digits zeros v, sign = [] ∨ sign = ['+'] → IsDigits digits v.toNat →
        Row.readColumn (sign ++ (List.replicate zeros '0' ++ digits)) = .ok v)
      ∧ ∀ line row, readRow number line = .ok row ↔ Row.IsRow line row := by
  refine ⟨?_, Row.exists_begins, fun column digits rest v h => Row.readColumn_eq_ok_iff_of_begins h,
    ?_, fun line row => readRow_eq_ok_iff⟩
  · intro line before after column digits rest hline hfour hbefore hcolumn hbegins
    have hread := readRow_of_column hline hfour hbefore hcolumn number
    obtain ⟨hlarger, hnone⟩ := Row.columnFault_text_iff hbegins
    have hinRange := mt (Row.exists_isDecimal_iff hbegins).mpr hcolumn
    refine ⟨(refusedAs_iff hread).trans hlarger, (refusedAs_iff hread).trans (hnone.trans ?_), ?_⟩
    · rw [Nat.not_lt]
      constructor
      · intro hle
        -- with digits in range, the column would be a numeral if nothing followed them
        by_cases hempty : digits = []
        · exact Or.inl hempty
        · have hrest : rest ≠ [] := fun hnil => hinRange ⟨hempty, hnil, hle⟩
          refine Or.inr ⟨hle, rest.head hrest, List.head?_eq_some_head hrest, ?_⟩
          exact hbegins.rest _ (List.head?_eq_some_head hrest)
      · rintro (rfl | ⟨hle, _⟩)
        · exact Nat.zero_le _
        · exact hle
    · -- columns further to the right may be anything, as long as there are four
      intro line' after' hline' hlength
      have hfour' : (before ++ column :: after').length = 4 := by
        rw [← hfour, List.length_append, List.length_append, List.length_cons, List.length_cons,
          hlength]
      rw [hread, readRow_of_column hline' hfour' hbefore hcolumn number]
  · intro sign digits zeros v hsign hdigits
    have hzeros := Row.isDigits_zeros hdigits zeros
    rw [Row.readColumn_eq_ok_iff]
    rcases hsign with rfl | rfl
    · exact .bare hzeros
    · exact .signed hzeros

/-- A run out of range with a letter behind it, and one in range. Both times a further column is out
of range too. And the greatest number behind a sign and zeros. -/
theorem column_diagnosis_letter :
    RefusedAs 3 "7 +08 4294967296x 9999999999".toList
        "\"4294967296x\" is larger than 4294967295".toList
      ∧ RefusedAs 3 "7 +08 +4294967295x 9999999999".toList
        "\"+4294967295x\" is not a non-negative integer".toList
      ∧ Row.readColumn "+0004294967295".toList = .ok 4294967295 := by
  have hbefore : ∀ c ∈ ["7".toList, "+08".toList], ∃ v : UInt32, IsDecimal c v.toNat := by
    have hseven : IsDecimal "7".toList (7 : UInt32).toNat :=
      Row.readColumn_eq_ok_iff.mp (by decide +kernel)
    have height : IsDecimal "+08".toList (8 : UInt32).toNat :=
      Row.readColumn_eq_ok_iff.mp (by decide +kernel)
    simp only [List.forall_mem_cons, List.not_mem_nil, false_implies, implies_true, and_true]
    exact ⟨⟨_, hseven⟩, _, height⟩
  have hletter : ∀ c ∈ "x".toList.head?, c.isDigit = false := by
    intro c hc
    rw [← Option.some.inj hc]
    rfl
  have hout : Row.Begins "4294967296x".toList "4294967296".toList "x".toList :=
    ⟨Or.inr ⟨rfl, by decide⟩, List.all_eq_true.mp (by decide), hletter⟩
  have hin : Row.Begins "+4294967295x".toList "4294967295".toList "x".toList :=
    ⟨Or.inl rfl, List.all_eq_true.mp (by decide), hletter⟩
  have hline : Spaced Text.isBlank "7 +08 4294967296x 9999999999".toList
      (["7".toList, "+08".toList] ++ "4294967296x".toList :: ["9999999999".toList]) :=
    Text.words_eq_iff.mp (by decide +kernel)
  have hline' : Spaced Text.isBlank "7 +08 +4294967295x 9999999999".toList
      (["7".toList, "+08".toList] ++ "+4294967295x".toList :: ["9999999999".toList]) :=
    Text.words_eq_iff.mp (by decide +kernel)
  have hquoted : Quoted.quote "4294967296x".toList ++ " is larger than 4294967295".toList
      = "\"4294967296x\" is larger than 4294967295".toList := by decide +kernel
  have hquoted' : Quoted.quote "+4294967295x".toList ++ " is not a non-negative integer".toList
      = "\"+4294967295x\" is not a non-negative integer".toList := by decide +kernel
  have hgreatest : IsDigits "4294967295".toList (4294967295 : UInt32).toNat :=
    ⟨by decide, List.all_eq_true.mp (by decide), by decide +kernel⟩
  obtain ⟨hdiagnosis, _, _, haccepted, _⟩ := column_diagnosis 3
  obtain ⟨hlarger, _⟩ := hdiagnosis _ _ _ _ _ _ hline rfl hbefore
    (mt (Row.exists_isDecimal_iff hout).mp (by decide)) hout
  obtain ⟨_, hnone, _⟩ := hdiagnosis _ _ _ _ _ _ hline' rfl hbefore
    (mt (Row.exists_isDecimal_iff hin).mp (by decide)) hin
  rw [hquoted] at hlarger
  rw [hquoted'] at hnone
  refine ⟨hlarger.mpr (by decide), hnone.mpr (Or.inr ⟨by decide, 'x', rfl, rfl⟩), ?_⟩
  exact haccepted ['+'] _ 3 _ (Or.inr rfl) hgreatest

end Table

end DecoderKit
