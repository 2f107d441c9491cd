import DecoderKit.Proofs.Table.Block

/-!
# Which texts are tables, and which line spoils the others

Two results about reading a table, one for each way in which it ends.

**A text is a table** when its lines are blank lines, rows and blank lines, in this
order, and then the rows are read in order (`read_eq_ok_iff`). Whether a blank line
is allowed depends on what comes later, and the reader settles that by dropping the
blank lines at both ends first. The statement needs no such order of events: the cut
into three parts is there or it is not.

**A text is no table** when a line between its first and its last full line is no
row, and then the first such line is reported (`read_error_firstOffender`), with its
number in the whole text and with the reason for which it would be refused alone.
-/

namespace DecoderKit.Table

open Text (IsLine isBlankLine)

variable {t : Text}

/-! ## Tables -/

theorem not_blank_of_isRow {line : Text} {row : Row} (h : Row.IsRow line row) :
    isBlankLine line = false := by
  cases hb : isBlankLine line with
  | false => rfl
  | true =>
      have hline := Row.ofLine_eq_ok_iff.mpr h
      rw [Row.ofLine_of_isBlankLine hb] at hline
      exact absurd hline (by simp)

/-- Rows between blank lines are a layout, since no row is blank. -/
theorem layout_of_rows {before body after : List Text} {rows : List Row}
    (hlines : Text.lines t = before ++ body ++ after)
    (hbefore : ∀ line ∈ before, isBlankLine line = true)
    (hbody : List.Forall₂ Row.IsRow body rows)
    (hafter : ∀ line ∈ after, isBlankLine line = true) : Layout t before body after where
  eq := by rw [hlines, List.append_assoc]
  before := hbefore
  after := hafter
  head := by
    intro line hline
    obtain ⟨row, _, hrow⟩ := exists_related hbody line (List.mem_of_mem_head? hline)
    exact not_blank_of_isRow hrow
  last := by
    intro line hline
    obtain ⟨row, _, hrow⟩ := exists_related hbody line (List.mem_of_mem_getLast? hline)
    exact not_blank_of_isRow hrow

/-- **A text is read as rows when its lines are blank lines, these rows and blank lines.** -/
theorem read_eq_ok_iff {rows : List Row} :
    read t = .ok rows ↔ ∃ before body after : List Text,
      Text.Cut t (before ++ body ++ after)
        ∧ (∀ line ∈ before, ∀ c ∈ line, Text.isBlank c = true)
        ∧ List.Forall₂ Row.IsRow body rows
        ∧ ∀ line ∈ after, ∀ c ∈ line, Text.isBlank c = true := by
  have hblank : ∀ line : Text, isBlankLine line = true ↔ ∀ c ∈ line, Text.isBlank c = true :=
    fun line => List.all_eq_true
  refine ⟨fun hread => ?_, fun h => ?_⟩
  · obtain ⟨before, body, after, h⟩ := exists_trimmed isBlankLine (Text.lines t)
    refine ⟨before, body, after, ?_, ?_, (read_eq_ok_iff_of_layout h).mp hread, ?_⟩
    · rw [← Text.lines_eq_iff, List.append_assoc]
      exact h.eq
    · exact fun line hline => (hblank line).mp (h.before line hline)
    · exact fun line hline => (hblank line).mp (h.after line hline)
  · -- any such cut is the layout that the reader works on
    obtain ⟨before, body, after, hcut, hbefore, hbody, hafter⟩ := h
    have hlayout : Layout t before body after :=
      layout_of_rows (Text.lines_eq_iff.mpr hcut)
        (fun line hline => (hblank line).mpr (hbefore line hline)) hbody
        (fun line hline => (hblank line).mpr (hafter line hline))
    exact (read_eq_ok_iff_of_layout hlayout).mpr hbody

/-! ## The first line that spoils a table -/

/-- This line of the block is no row, and every line of the block before it is one. -/
structure FirstOffender (t : Text) (number : Nat) (line : Text) : Prop where
  isLine : IsLine t number line
  inBlock : InBlock t number
  notRow : ¬ ∃ row, Row.IsRow line row
  before : ∀ i l, i < number → InBlock t i → IsLine t i l → ∃ row, Row.IsRow l row

/-- There is one first offender at most. -/
theorem FirstOffender.unique {number number' : Nat} {line line' : Text}
    (h : FirstOffender t number line) (h' : FirstOffender t number' line') :
    number = number' ∧ line = line' := by
  -- the lower of two numbers would be that of a row, by the other offender
  rcases Nat.lt_trichotomy number number' with hlt | heq | hgt
  · exact absurd (h'.before number line hlt h.inBlock h.isLine) h.notRow
  · subst heq
    exact ⟨rfl, h.isLine.unique h'.isLine⟩
  · exact absurd (h.before number' line' hgt h'.inBlock h'.isLine) h'.notRow

/-- Where the sweep over the block stops, there is the first offender. -/
theorem firstOffender_of_block {front rear : List (Text × Nat)} {line : Text} {number : Nat}
    (hblock : block t = front ++ (line, number) :: rear)
    (hfront : ∀ x ∈ front, ∃ row, Row.IsRow x.1 row)
    (hno : ¬ ∃ row, Row.IsRow line row) : FirstOffender t number line := by
  have hmem : (line, number) ∈ block t := by rw [hblock]; simp
  obtain ⟨hline, hin⟩ := mem_block_iff.mp hmem
  refine ⟨hline, hin, hno, fun i l hi hini hl => ?_⟩
  have hl' : (l, i) ∈ block t := mem_block_iff.mpr ⟨hl, hini⟩
  have hincr := block_pairwise t
  rw [hblock, List.pairwise_append, List.pairwise_cons] at hincr
  rw [hblock] at hl'
  rcases List.mem_append.mp hl' with hmem | hmem
  · exact hfront (l, i) hmem
  · -- from the offender on, no number is smaller
    exfalso
    rcases List.mem_cons.mp hmem with heq | hrear
    · exact absurd (congrArg Prod.snd heq) (Nat.ne_of_lt hi)
    · exact absurd (hincr.2.1.1 (l, i) hrear) (Nat.not_lt.mpr (Nat.le_of_lt hi))

/-- A table has no offenders. -/
theorem isRow_of_read_eq_ok {rows : List Row} (h : read t = .ok rows) {number : Nat}
    {line : Text} (hline : IsLine t number line) (hin : InBlock t number) :
    ∃ row, Row.IsRow line row := by
  obtain ⟨before, body, after, hlayout⟩ := exists_trimmed isBlankLine (Text.lines t)
  have hmem : (line, number) ∈ block t := mem_block_iff.mpr ⟨hline, hin⟩
  rw [block_eq hlayout] at hmem
  obtain ⟨row, _, hrow⟩ := exists_related ((read_eq_ok_iff_of_layout hlayout).mp h) line
    (List.fst_mem_of_mem_zipIdx hmem)
  exact ⟨row, hrow⟩

/-- **Reading fails with the fault of the first offender.** -/
theorem read_eq_error_iff {fault : Fault} :
    read t = .error fault ↔ ∃ number line,
      FirstOffender t number line ∧ readRow number line = .error fault := by
  have hforth : ∀ fault, read t = .error fault → ∃ number line,
      FirstOffender t number line ∧ readRow number line = .error fault := by
    intro fault h
    obtain ⟨front, line, number, rear, hblock, hfront, hline⟩ := read_eq_error_iff_of_block.mp h
    refine ⟨number, line, firstOffender_of_block hblock hfront fun hyes => ?_, hline⟩
    obtain ⟨row, hrow⟩ := hyes
    rw [readRow_eq_ok_iff.mpr hrow] at hline
    exact absurd hline (by simp)
  refine ⟨hforth fault, fun h => ?_⟩
  obtain ⟨number, line, hfirst, hline⟩ := h
  -- the offender keeps the text from being read, and the fault must be its own
  cases hread : read t with
  | ok rows => exact absurd (isRow_of_read_eq_ok hread hfirst.isLine hfirst.inBlock) hfirst.notRow
  | error fault' =>
      obtain ⟨number', line', hfirst', hline'⟩ := hforth fault' hread
      obtain ⟨hnumber, hl⟩ := hfirst.unique hfirst'
      rw [← hnumber, ← hl, hline] at hline'
      rw [Except.error.inj hline']

/-- Reading fails for a line and for nothing else. -/
theorem exists_malformedRow_of_read {fault : Fault} (h : read t = .error fault) :
    ∃ number reason, fault = .malformedRow number reason := by
  obtain ⟨number, line, _, hline⟩ := read_eq_error_iff.mp h
  obtain ⟨reason, _, hfault⟩ := readRow_eq_error_iff.mp hline
  exact ⟨number, reason, hfault⟩

/-- A blank line spoils a table when there are full lines on both sides of it. -/
theorem full_lines_around {number : Nat} {line : Text} (hline : IsLine t number line)
    (hin : InBlock t number) (hb : isBlankLine line = true) :
    (∃ i l, i < number ∧ IsLine t i l ∧ isBlankLine l = false)
      ∧ ∃ j l, number < j ∧ IsLine t j l ∧ isBlankLine l = false := by
  have hne : ∀ i l, IsLine t i l → isBlankLine l = false → i ≠ number := by
    intro i l hl hfull heq
    subst heq
    rw [hline.unique hl, hfull] at hb
    exact Bool.noConfusion hb
  obtain ⟨⟨i, l, hi, hl, hfull⟩, j, l', hj, hl', hfull'⟩ := hin
  exact ⟨⟨i, l, Nat.lt_of_le_of_ne hi (hne i l hl hfull), hl, hfull⟩,
    j, l', Nat.lt_of_le_of_ne hj (Ne.symm (hne j l' hl' hfull')), hl', hfull'⟩

/-- **Reading fails when a line of the block is no row, and the first such line is reported**,
with its number in the text and the reason for which it is refused alone. It is reported for
having no columns exactly if it is a blank line among full ones. -/
theorem read_error_firstOffender (t : Text) :
    ((∃ fault, read t = .error fault)
        ↔ ∃ number line, IsLine t number line ∧ InBlock t number ∧ ¬ ∃ row, Row.IsRow line row)
      ∧ ∀ fault, read t = .error fault → ∃ number line reason,
        fault = .malformedRow number reason
          ∧ FirstOffender t number line
          ∧ readRow number line = .error fault
          ∧ Row.Refused (Text.words line) reason
          ∧ ((Text.words line).length ≠ 4 → reason.text
              = "expected 4 fields, found ".toList ++ Numeral.decimal (Text.words line).length)
          ∧ (reason = .columnCount 0 ↔ isBlankLine line = true
              ∧ (∃ i l, i < number ∧ IsLine t i l ∧ isBlankLine l = false)
              ∧ ∃ j l, number < j ∧ IsLine t j l ∧ isBlankLine l = false) := by
  refine ⟨⟨fun h => ?_, fun h => ?_⟩, fun fault h => ?_⟩
  · obtain ⟨fault, hfault⟩ := h
    obtain ⟨number, line, hfirst, _⟩ := read_eq_error_iff.mp hfault
    exact ⟨number, line, hfirst.isLine, hfirst.inBlock, hfirst.notRow⟩
  · obtain ⟨number, line, hline, hin, hno⟩ := h
    cases hread : read t with
    | error fault => exact ⟨fault, rfl⟩
    | ok rows => exact absurd (isRow_of_read_eq_ok hread hline hin) hno
  · obtain ⟨number, line, hfirst, hline⟩ := read_eq_error_iff.mp h
    obtain ⟨reason, hreason, hfault⟩ := readRow_eq_error_iff.mp hline
    refine ⟨number, line, reason, hfault, hfirst, hline, Row.ofLine_eq_error_iff.mp hreason,
      fun hlen => ?_, fun hzero => ?_, fun hblank => ?_⟩
    · rw [Row.ofLine_of_length_ne hlen] at hreason
      rw [← Except.error.inj hreason]
      rfl
    · -- only a blank line has no columns, and being in the block it is not at an end
      rw [hzero] at hreason
      have hb := Row.ofLine_eq_columnCount_zero_iff.mp hreason
      exact ⟨hb, full_lines_around hfirst.isLine hfirst.inBlock hb⟩
    · rw [Row.ofLine_of_isBlankLine hblank.1] at hreason
      exact (Except.error.inj hreason).symm

end DecoderKit.Table
