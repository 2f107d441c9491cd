import DecoderKit.Proofs.Table.RowGrammar
import DecoderKit.Proofs.Text.Lines
import DecoderKit.Proofs.Trimmed
import DecoderKit.Table.Reader

/-!
# The block of a table and its numbers

The reader numbers the lines of a text, drops the blank ones at both ends and reads
the rest from the left. Everything that is said about it starts from a cut of the
text's lines into blank lines, a body and blank lines: the block is the body, and
its numbers go on from the lines in front (`block_eq`).

Which line has which number is then no matter of the cut any more: the block holds
exactly the lines from the first to the last that is not blank, each with the number
that it has in the text (`mem_block_iff`), in increasing order.
-/

namespace DecoderKit.Table

open Text (IsLine isBlankLine)

/-- The lines of a text, cut into blank lines, the body of the table and blank lines. -/
abbrev Layout (t : Text) (before body after : List Text) : Prop :=
  Trimmed isBlankLine (Text.lines t) before body after

/-- The number lies between the first and the last line of the text that are not blank. -/
def InBlock (t : Text) (number : Nat) : Prop :=
  (∃ i line, i ≤ number ∧ IsLine t i line ∧ isBlankLine line = false)
    ∧ ∃ j line, number ≤ j ∧ IsLine t j line ∧ isBlankLine line = false

variable {t : Text} {before body after : List Text}

/-- The block is the body, numbered on from the lines in front. -/
theorem block_eq (h : Layout t before body after) : block t = body.zipIdx (before.length + 1) := by
  have hbody := (Trimmed.zipIdx h 1).dropWhile_eq
  rw [Nat.add_comm 1] at hbody
  exact hbody

/-! ## Where the lines stand -/

theorem isLine_body (h : Layout t before body after) {i : Nat} (hi : i < body.length)
    {line : Text} : IsLine t (before.length + 1 + i) line ↔ body[i]? = some line := by
  have hget : (Text.lines t)[before.length + 1 + i - 1]? = body[i]? := by
    rw [h.eq, List.getElem?_append_right (by omega), List.getElem?_append_left (by omega)]
    congr 1
    omega
  rw [IsLine, hget]
  exact ⟨fun hl => hl.2, fun hl => ⟨by omega, hl⟩⟩

theorem isBlankLine_of_le_before (h : Layout t before body after) {number : Nat}
    (hn : number ≤ before.length) {line : Text} (hl : IsLine t number line) :
    isBlankLine line = true := by
  obtain ⟨h1, hget⟩ := hl
  rw [h.eq, List.getElem?_append_left (by omega)] at hget
  exact h.before line (List.mem_of_getElem? hget)

theorem isBlankLine_of_body_lt (h : Layout t before body after) {number : Nat}
    (hn : before.length + body.length < number) {line : Text} (hl : IsLine t number line) :
    isBlankLine line = true := by
  obtain ⟨_, hget⟩ := hl
  rw [h.eq, List.getElem?_append_right (by omega),
    List.getElem?_append_right (by omega)] at hget
  exact h.after line (List.mem_of_getElem? hget)

/-- The body starts and ends with a line that is not blank, so its numbers are the block's. -/
theorem inBlock_iff (h : Layout t before body after) {number : Nat} :
    InBlock t number ↔ before.length < number ∧ number ≤ before.length + body.length := by
  refine ⟨fun hin => ?_, fun hin => ?_⟩
  · obtain ⟨⟨i, line, hi, hline, hfull⟩, j, line', hj, hline', hfull'⟩ := hin
    -- outside of the body all lines are blank, on either side
    refine ⟨?_, ?_⟩
    · by_contra hle
      have hb := isBlankLine_of_le_before h (by omega) hline
      rw [hfull] at hb
      exact Bool.noConfusion hb
    · by_contra hlt
      have hb := isBlankLine_of_body_lt h (by omega) hline'
      rw [hfull'] at hb
      exact Bool.noConfusion hb
  · obtain ⟨hlt, hle⟩ := hin
    have hpos : 0 < body.length := by omega
    -- the first and the last line of the body are the full lines around the number
    refine ⟨⟨before.length + 1 + 0, body[0], by omega, ?_, ?_⟩,
      before.length + 1 + (body.length - 1), body[body.length - 1], by omega, ?_, ?_⟩
    · exact (isLine_body h hpos).mpr (List.getElem?_eq_getElem hpos)
    · exact h.head _ (by rw [List.head?_eq_getElem?]; exact List.getElem?_eq_getElem hpos)
    · exact (isLine_body h (by omega)).mpr (List.getElem?_eq_getElem (by omega))
    · exact h.last _
        (by rw [List.getLast?_eq_getElem?]; exact List.getElem?_eq_getElem (by omega))

/-- **The block holds the lines from the first to the last that is not blank**, each with its
number in the text. -/
theorem mem_block_iff {number : Nat} {line : Text} :
    (line, number) ∈ block t ↔ IsLine t number line ∧ InBlock t number := by
  obtain ⟨before, body, after, h⟩ := exists_trimmed isBlankLine (Text.lines t)
  rw [block_eq h, inBlock_iff h, List.mk_mem_zipIdx_iff_le_and_getElem?_sub]
  refine ⟨fun hmem => ?_, fun hmem => ?_⟩
  · obtain ⟨hle, hget⟩ := hmem
    have hlt : number - (before.length + 1) < body.length :=
      (List.getElem?_eq_some_iff.mp hget).1
    have hline := (isLine_body h hlt).mpr hget
    rw [show before.length + 1 + (number - (before.length + 1)) = number by omega] at hline
    exact ⟨hline, by omega, by omega⟩
  · obtain ⟨hline, hlt, hle⟩ := hmem
    refine ⟨by omega, (isLine_body h (by omega)).mp ?_⟩
    rwa [show before.length + 1 + (number - (before.length + 1)) = number by omega]

/-- The numbers of a block increase. -/
theorem block_pairwise (t : Text) : (block t).Pairwise fun a b => a.2 < b.2 := by
  obtain ⟨before, body, after, h⟩ := exists_trimmed isBlankLine (Text.lines t)
  rw [block_eq h, List.pairwise_iff_getElem]
  intro i j hi hj hij
  rw [List.getElem_zipIdx, List.getElem_zipIdx]
  exact Nat.add_lt_add_left hij _

/-! ## Reading the block -/

theorem readRow_eq_ok_iff {number : Nat} {line : Text} {row : Row} :
    readRow number line = .ok row ↔ Row.IsRow line row := by
  rw [← Row.ofLine_eq_ok_iff, readRow]
  split
  · rename_i row' hrow
    rw [hrow]
    exact ⟨fun h => congrArg _ (Except.ok.inj h), fun h => congrArg _ (Except.ok.inj h)⟩
  · rename_i reason hreason
    rw [hreason]
    exact ⟨fun h => absurd h (by simp), fun h => absurd h (by simp)⟩

theorem readRow_eq_error_iff {number : Nat} {line : Text} {fault : Fault} :
    readRow number line = .error fault
      ↔ ∃ reason, Row.ofLine line = .error reason ∧ fault = .malformedRow number reason := by
  rw [readRow]
  split
  · rename_i row hrow
    refine ⟨fun h => absurd h (by simp), fun h => ?_⟩
    obtain ⟨reason, hreason, _⟩ := h
    rw [hrow] at hreason
    exact absurd hreason (by simp)
  · rename_i reason hreason
    refine ⟨fun h => ⟨reason, hreason, (Except.error.inj h).symm⟩, fun h => ?_⟩
    · obtain ⟨reason', hreason', hfault⟩ := h
      rw [hreason] at hreason'
      rw [hfault, ← Except.error.inj hreason']

/-- Reads a line with its number. -/
def readNumberedLine (line : Text × Nat) : Except Fault Row := readRow line.2 line.1

/-- Reading numbered lines is a sweep over them. -/
theorem readRows_eq_mapM (ls : List (Text × Nat)) : readRows ls = ls.mapM readNumberedLine := by
  induction ls with
  | nil => rfl
  | cons line ls ih =>
      obtain ⟨line, number⟩ := line
      rw [readRows, ih]
      -- both look at the first line first, and stop there if it is no row
      cases hrow : readNumberedLine (line, number) with
      | error fault =>
          rw [mapM_cons_error hrow, show readRow number line = .error fault from hrow]
      | ok row =>
          rw [mapM_cons_ok hrow, show readRow number line = .ok row from hrow]

/-- Reading a table is a sweep over the lines of its body. -/
theorem read_of_layout (h : Layout t before body after) :
    read t = (body.zipIdx (before.length + 1)).mapM readNumberedLine := by
  rw [read, block_eq h, readRows_eq_mapM]

/-- A table is read when the lines of its body are rows. -/
theorem read_eq_ok_iff_of_layout (h : Layout t before body after) {rows : List Row} :
    read t = .ok rows ↔ List.Forall₂ Row.IsRow body rows := by
  rw [read_of_layout h, mapM_eq_ok_iff]
  simp only [readNumberedLine, readRow_eq_ok_iff]
  exact forall₂_zipIdx_iff _

/-- A line of the block that is no row, and none before it that is no row either. -/
theorem read_eq_error_iff_of_block {fault : Fault} :
    read t = .error fault ↔ ∃ front line number rear, block t = front ++ (line, number) :: rear
      ∧ (∀ x ∈ front, ∃ row, Row.IsRow x.1 row) ∧ readRow number line = .error fault := by
  rw [read, readRows_eq_mapM, mapM_eq_error_iff]
  refine ⟨fun h => ?_, fun h => ?_⟩
  · obtain ⟨front, ⟨line, number⟩, rear, hblock, hfront, hline⟩ := h
    refine ⟨front, line, number, rear, hblock, fun x hx => ?_, hline⟩
    obtain ⟨row, hrow⟩ := hfront x hx
    exact ⟨row, readRow_eq_ok_iff.mp hrow⟩
  · obtain ⟨front, line, number, rear, hblock, hfront, hline⟩ := h
    refine ⟨front, (line, number), rear, hblock, fun x hx => ?_, hline⟩
    obtain ⟨row, hrow⟩ := hfront x hx
    exact ⟨row, readRow_eq_ok_iff.mpr hrow⟩

end DecoderKit.Table
