import DecoderKit.Proofs.Table.Reading
import DecoderKit.Proofs.Table.Width

/-!
# Which line the fault of a conversion names

A conversion has two stages that name a line. The reader names the line where it
stands in the text. The width check sees rows only and names the place of the row
among them. Both numbers end up in the same message, and they are counted from
different places: the rows start behind the blank lines at the top of the text.

`AtFault` says what the number in a fault ought to mean. `fault_names_line_iff` says
when it does: always, except where the width check refuses a row of a text that
starts with a blank line. There the row at fault stands further down, by the number
of blank lines at the top, and the line that is named is blank or is a row that fits.
-/

namespace DecoderKit.Table

open Text (IsLine isBlankLine)

variable {t : Text}

/-- The line with this number is the one that the reason is about. -/
inductive AtFault (t : Text) (width : HexWidth) (number : Nat) (reason : RowFault) : Prop where
  /-- The line is refused, with this very fault. -/
  | refused {line : Text} : IsLine t number line →
      readRow number line = .error (.malformedRow number reason) → AtFault t width number reason
  /-- The text is a table, the line is a row that is too wide for strict writing, and every
  line before it is blank or a row that fits. -/
  | wide {line : Text} {row : Row} {rows : List Row} : width = .strict → read t = .ok rows →
      IsLine t number line → Row.IsRow line row → row.IsWide →
      (∀ i l, i < number → IsLine t i l → isBlankLine l = false →
        ∃ r, Row.IsRow l r ∧ ¬ r.IsWide) → AtFault t width number reason

/-- The number of blank lines at the top of a text. -/
def blankLinesOnTop (t : Text) : Nat := ((Text.lines t).takeWhile isBlankLine).length

/-! ## Where the rows stand -/

theorem blankLinesOnTop_eq {before body after : List Text} (h : Layout t before body after)
    (hbody : body ≠ []) : blankLinesOnTop t = before.length := by
  have hnone : (body ++ after).takeWhile isBlankLine = [] := by
    cases body with
    | nil => exact absurd rfl hbody
    | cons line body =>
        have hline : isBlankLine line = false := h.head line rfl
        exact List.takeWhile_cons_of_neg (by simp [hline])
  rw [blankLinesOnTop, h.eq, List.takeWhile_append_of_pos h.before, hnone, List.append_nil]

theorem blankLinesOnTop_pos_iff :
    0 < blankLinesOnTop t ↔ ∃ line, IsLine t 1 line ∧ isBlankLine line = true := by
  unfold blankLinesOnTop IsLine
  cases Text.lines t with
  | nil => simp
  | cons line ls =>
      cases hb : isBlankLine line with
      | true => simp [hb]
      | false => simp [hb]

/-- The rows of a table stand below its blank lines, in order. -/
theorem row_line {rows front rear : List Row} {row : Row} (hread : read t = .ok rows)
    (hrows : rows = front ++ row :: rear) :
    (∃ line, IsLine t (blankLinesOnTop t + (front.length + 1)) line ∧ Row.IsRow line row)
      ∧ ∀ i l, i < blankLinesOnTop t + (front.length + 1) → IsLine t i l →
        isBlankLine l = false → ∃ r ∈ front, Row.IsRow l r := by
  obtain ⟨before, body, after, h⟩ := exists_trimmed isBlankLine (Text.lines t)
  have hbody := (read_eq_ok_iff_of_layout h).mp hread
  rw [hrows] at hbody
  obtain ⟨body₁, line, body₂, hsplit, hfront, hline⟩ := exists_split hbody
  have hlen : body₁.length = front.length := hfront.length_eq
  have hblen : body.length = body₁.length + body₂.length + 1 := by
    rw [hsplit, List.length_append, List.length_cons, Nat.add_assoc]
  have htop : blankLinesOnTop t = before.length :=
    blankLinesOnTop_eq h (List.ne_nil_of_length_pos (by omega))
  rw [htop]
  refine ⟨?_, fun i l hi hl hfull => ?_⟩
  · refine ⟨line, ?_, hline⟩
    rw [show before.length + (front.length + 1) = before.length + 1 + body₁.length by omega]
    refine (isLine_body h (by omega)).mpr ?_
    rw [hsplit, List.getElem?_append_right (Nat.le_refl _), Nat.sub_self]
    rfl
  · have hlow : before.length < i := by
      by_contra hle
      rw [isBlankLine_of_le_before h (by omega) hl] at hfull
      exact Bool.noConfusion hfull
    -- so the line is one of those that the rows in front were read from
    rw [show i = before.length + 1 + (i - (before.length + 1)) by omega,
      isLine_body h (by omega), hsplit, List.getElem?_append_left (by omega)] at hl
    exact exists_related hfront l (List.mem_of_getElem? hl)

/-! ## The two stages -/

/-- The reader names the line at fault. -/
theorem atFault_of_read_error {width : HexWidth} {number : Nat} {reason : RowFault}
    (h : read t = .error (.malformedRow number reason)) : AtFault t width number reason := by
  obtain ⟨number', line, hfirst, hline⟩ := read_eq_error_iff.mp h
  obtain ⟨reason', _, hfault⟩ := readRow_eq_error_iff.mp hline
  obtain ⟨hnumber, _⟩ := Fault.malformedRow.inj hfault
  subst hnumber
  exact AtFault.refused hfirst.isLine hline

/-- The row that the width check refuses stands below the blank lines on top. -/
theorem atFault_of_checkWidth_error {rows : List Row} {width : HexWidth} {number : Nat}
    {reason : RowFault} (hread : read t = .ok rows)
    (h : checkWidth rows width = .error (.malformedRow number reason)) :
    AtFault t width (blankLinesOnTop t + number) reason := by
  obtain ⟨hstrict, front, row, rear, hrows, hfront, hrow, hfault⟩ := checkWidth_error h
  obtain ⟨hnumber, _⟩ := Fault.malformedRow.inj hfault
  obtain ⟨⟨line, hline, hisRow⟩, hbefore⟩ := row_line hread hrows
  rw [hnumber]
  refine AtFault.wide hstrict hread hline hisRow hrow fun i l hi hl hfull => ?_
  obtain ⟨r, hr, hlr⟩ := hbefore i l hi hl hfull
  exact ⟨r, hlr, hfront r hr⟩

/-- A line before that one is not at fault. -/
theorem not_atFault_of_checkWidth_error {rows : List Row} {width : HexWidth} {number : Nat}
    {reason : RowFault} (hread : read t = .ok rows)
    (h : checkWidth rows width = .error (.malformedRow number reason)) {i : Nat}
    (hi : i < blankLinesOnTop t + number) : ¬ AtFault t width i reason := by
  obtain ⟨_, front, row, rear, hrows, hfront, _, hfault⟩ := checkWidth_error h
  obtain ⟨hnumber, hreason⟩ := Fault.malformedRow.inj hfault
  obtain ⟨_, hbefore⟩ := row_line hread hrows
  rw [hnumber] at hi
  intro hat
  cases hat with
  | @refused line hline herror =>
      obtain ⟨reason', hreason', heq⟩ := readRow_eq_error_iff.mp herror
      cases hb : isBlankLine line with
      | true =>
          -- a blank line is refused for another reason
          rw [Row.ofLine_of_isBlankLine hb] at hreason'
          rw [← (Fault.malformedRow.inj heq).2, hreason] at hreason'
          exact absurd hreason' (by simp)
      | false =>
          obtain ⟨r, _, hr⟩ := hbefore i line hi hline hb
          rw [Row.ofLine_eq_ok_iff.mpr hr] at hreason'
          exact absurd hreason' (by simp)
  | @wide line row' rows' _ _ hline hrow' hwide _ =>
      obtain ⟨r, hmem, hr⟩ := hbefore i line hi hline (not_blank_of_isRow hrow')
      have hsame := (Row.ofLine_eq_ok_iff.mpr hr).symm.trans (Row.ofLine_eq_ok_iff.mpr hrow')
      rw [← Except.ok.inj hsame] at hwide
      exact hfront r hmem hwide

/-- **The fault of a conversion names the line at fault, except where a row is too wide in a
text that starts with a blank line.** There the line at fault is further down, by the number of
blank lines on top. -/
theorem fault_names_line_iff (t : Text) (conversion : Conversion) :
    ((∀ number reason, conversion.convert t = .error (.malformedRow number reason) →
        AtFault t conversion.style.width number reason)
      ↔ ¬ (conversion.style.width = .strict
        ∧ (∃ rows, read t = .ok rows ∧ ∃ row ∈ rows, row.IsWide)
        ∧ ∃ line, IsLine t 1 line ∧ isBlankLine line = true))
      ∧ ∀ number reason, conversion.convert t = .error (.malformedRow number reason) →
        (∃ fault, read t = .error fault) ∧ AtFault t conversion.style.width number reason
          ∨ (∃ rows, read t = .ok rows)
            ∧ AtFault t conversion.style.width (blankLinesOnTop t + number) reason := by
  refine ⟨?_, fun number reason h => ?_⟩
  · rw [← blankLinesOnTop_pos_iff]
    refine ⟨fun hnames hcond => ?_, fun hcond number reason h => ?_⟩
    · -- the check names a line above the one at fault, and that line is at no fault
      obtain ⟨hstrict, ⟨rows, hread, row, hmem, hwide⟩, htop⟩ := hcond
      rcases checkWidth_strict_cases rows with ⟨_, hall⟩ | ⟨front, row', rear, hrows, _, _, he⟩
      · exact hall row hmem hwide
      · rw [← hstrict] at he
        exact not_atFault_of_checkWidth_error hread he (by omega)
          (hnames _ _ (Conversion.convert_eq_error_iff.mpr (Or.inr ⟨rows, hread, he⟩)))
    · rcases Conversion.convert_eq_error_iff.mp h with hread | ⟨rows, hread, hcheck⟩
      · exact atFault_of_read_error hread
      · have hat := atFault_of_checkWidth_error hread hcheck
        -- the two ways of counting lines agree when there is nothing on top
        rcases Nat.eq_zero_or_pos (blankLinesOnTop t) with hzero | hpos
        · rwa [hzero, Nat.zero_add] at hat
        · exfalso
          obtain ⟨hstrict, front, row, rear, hrows, _, hrow, _⟩ := checkWidth_error hcheck
          exact hcond ⟨hstrict, ⟨rows, hread, row, by rw [hrows]; simp, hrow⟩, hpos⟩
  · rcases Conversion.convert_eq_error_iff.mp h with hread | ⟨rows, hread, hcheck⟩
    · exact Or.inl ⟨⟨_, hread⟩, atFault_of_read_error hread⟩
    · exact Or.inr ⟨⟨rows, hread⟩, atFault_of_checkWidth_error hread hcheck⟩

/-- A blank line and a row that is too wide: the fault names the blank line. -/
theorem fault_names_blank_line :
    Conversion.convert { style := { width := .strict } } "\n256 0 0 0\n".toList
        = .error (.malformedRow 1 (.tooWide 256 0))
      ∧ ¬ AtFault "\n256 0 0 0\n".toList .strict 1 (.tooWide 256 0) := by
  have hread : read "\n256 0 0 0\n".toList
      = .ok [{ state := 256, symbol := 0, bits := 0, baseline := 0 }] := by decide +kernel
  have hcheck : checkWidth [{ state := 256, symbol := 0, bits := 0, baseline := 0 }] .strict
      = .error (.malformedRow 1 (.tooWide 256 0)) := by decide +kernel
  refine ⟨Conversion.convert_eq_error_iff.mpr (Or.inr ⟨_, hread, hcheck⟩), ?_⟩
  exact not_atFault_of_checkWidth_error hread hcheck (by decide +kernel)

end DecoderKit.Table
