import DecoderKit.Proofs.LaterFault
import DecoderKit.Proofs.Table.Reading

/-!
# Two tables in one text

A text is put behind another one, which ends where a line does. The lines of the whole are
those of the first and then those of the second, so its table runs from the first full line
of the first text to the last full line of the second. Blank lines at the far ends are
dropped as before. But the blank lines at the bottom of the first text and at the top of the
second were outside of both tables, and now they stand in the middle of one.

`read_append` says what that comes to. The fault of the first text stays what it is; then
comes the blank line between the two, if there is one; and the fault of the second text is
met later, by the number of lines of the first.
-/

namespace DecoderKit.Table

open Text (IsLine isBlankLine)

variable {a b : Text} {before body after before' body' after' : List Text} {rows : List Row}

/-- The last line of the text that is not blank has this number. -/
def IsLastFull (t : Text) (number : Nat) : Prop :=
  (∃ line, IsLine t number line ∧ isBlankLine line = false)
    ∧ ∀ i line, number < i → IsLine t i line → isBlankLine line = true

/-- The first text ends in a blank line, or the second starts with one. -/
def BlankBetween (a b : Text) : Prop :=
  (∃ line ∈ (Text.lines a).getLast?, isBlankLine line = true)
    ∨ ∃ line ∈ (Text.lines b).head?, isBlankLine line = true

/-! ## Where the two tables meet -/

/-- Each text has a table in it, and the first ends where a line does. -/
structure Joined (a b : Text) (before body after before' body' after' : List Text) : Prop where
  ends : a.getLast? = some '\n'
  first : Layout a before body after
  second : Layout b before' body' after'
  body_ne_nil : body ≠ []
  body'_ne_nil : body' ≠ []

theorem exists_joined (hend : a.getLast? = some '\n')
    (ha : ∃ line ∈ Text.lines a, isBlankLine line = false)
    (hb : ∃ line ∈ Text.lines b, isBlankLine line = false) :
    ∃ before body after before' body' after',
      Joined a b before body after before' body' after' := by
  obtain ⟨before, body, after, h⟩ := exists_trimmed isBlankLine (Text.lines a)
  obtain ⟨before', body', after', h'⟩ := exists_trimmed isBlankLine (Text.lines b)
  exact ⟨before, body, after, before', body', after',
    ⟨hend, h, h', h.body_ne_nil ha, h'.body_ne_nil hb⟩⟩

/-- Of the blank lines only those at the far ends are dropped. -/
theorem Joined.layout (h : Joined a b before body after before' body' after') :
    Layout (a ++ b) before (body ++ ((after ++ before') ++ body')) after' := by
  have hlines : Text.lines (a ++ b) = Text.lines a ++ Text.lines b := by
    refine Text.lines_append ?_ b
    intro c hc
    rw [h.ends] at hc
    exact (Option.some.inj hc).symm
  unfold Layout
  rw [hlines]
  exact Trimmed.append h.first h.second h.body_ne_nil h.body'_ne_nil

theorem Joined.isLastFull (h : Joined a b before body after before' body' after') :
    IsLastFull a (before.length + body.length) := by
  have hpos : 0 < body.length := List.length_pos_of_ne_nil h.body_ne_nil
  have hlast := List.getLast?_eq_some_getLast h.body_ne_nil
  constructor
  · refine ⟨body.getLast h.body_ne_nil, ?_, h.first.last _ hlast⟩
    rw [List.getLast?_eq_getElem?] at hlast
    have hline := (isLine_body h.first (by omega)).mpr hlast
    rwa [show before.length + 1 + (body.length - 1) = before.length + body.length by omega]
      at hline
  · intro i line hi hline
    exact isBlankLine_of_body_lt h.first hi hline

/-- All lines between the bodies are blank, so there are some if there is one where the texts
meet. -/
theorem Joined.blankBetween_iff (h : Joined a b before body after before' body' after') :
    BlankBetween a b ↔ after ++ before' ≠ [] := by
  rw [BlankBetween, ← h.first.after_ne_nil_iff h.body_ne_nil,
    ← h.second.before_ne_nil_iff h.body'_ne_nil, ne_eq, ne_eq, ne_eq, List.append_eq_nil_iff,
    not_and_or]

/-! ## Reading both tables -/

theorem namesNumber_readNumberedLine : NamesNumber readNumberedLine := by
  intro count line number
  unfold readNumberedLine readRow
  cases Row.ofLine line <;> rfl

theorem Joined.read_error (h : Joined a b before body after before' body' after') {fault : Fault}
    (hread : read a = .error fault) : read (a ++ b) = .error fault := by
  rw [read_of_layout h.first] at hread
  rw [read_of_layout h.layout, List.zipIdx_append]
  exact mapM_append_error hread _

/-- Reading goes on behind the rows of the first text. -/
theorem Joined.read_ok (h : Joined a b before body after before' body' after')
    (hread : read a = .ok rows) : read (a ++ b)
      = (((((after ++ before') ++ body').zipIdx (before.length + 1)).mapM
          readNumberedLine).mapError (Fault.later rows.length)).map (rows ++ ·) := by
  rw [read_of_layout h.first] at hread
  rw [read_of_layout h.layout]
  exact namesNumber_readNumberedLine.mapM_zipIdx_append hread _

theorem Joined.length_rows (h : Joined a b before body after before' body' after')
    (hread : read a = .ok rows) : rows.length = body.length :=
  ((read_eq_ok_iff_of_layout h.first).mp hread).length_eq.symm

/-- The blank line that is met is the one behind the last full line of the first text. -/
theorem Joined.read_of_blankBetween (h : Joined a b before body after before' body' after')
    (hread : read a = .ok rows) (hblank : BlankBetween a b) : read (a ++ b)
      = .error (.malformedRow (before.length + body.length + 1) (.columnCount 0)) := by
  obtain ⟨line, rest, hgap⟩ := List.exists_cons_of_ne_nil (h.blankBetween_iff.mp hblank)
  have hline : isBlankLine line = true := by
    have hmem : line ∈ after ++ before' := by
      rw [hgap]
      exact List.mem_cons_self ..
    -- it is dropped from the one text or from the other when they stand alone
    rcases List.mem_append.mp hmem with hmem | hmem
    · exact h.first.after line hmem
    · exact h.second.before line hmem
  have hfault : readNumberedLine (line, before.length + 1)
      = .error (.malformedRow (before.length + 1) (.columnCount 0)) :=
    readRow_eq_error_iff.mpr ⟨_, Row.ofLine_of_isBlankLine hline, rfl⟩
  have hnumber : rows.length + (before.length + 1) = before.length + body.length + 1 := by
    have hlen := h.length_rows hread
    omega
  rw [h.read_ok hread, hgap, List.cons_append, List.zipIdx_cons, mapM_cons_error hfault, ← hnumber]
  rfl

/-- Without a blank line in between, the second text is read as it stands alone, only later. -/
theorem Joined.read_of_not_blankBetween (h : Joined a b before body after before' body' after')
    (hread : read a = .ok rows) (hblank : ¬ BlankBetween a b) : read (a ++ b)
      = ((read b).mapError (Fault.later (Text.lines a).length)).map (rows ++ ·) := by
  have hgap : after ++ before' = [] := by
    by_contra hne
    exact hblank (h.blankBetween_iff.mpr hne)
  obtain ⟨hafter, hbefore⟩ := List.append_eq_nil_iff.mp hgap
  -- alone, the body of the second text begins on its first line
  have hsecond : read b = (body'.zipIdx 1).mapM readNumberedLine := by
    rw [read_of_layout h.second, hbefore]
    rfl
  have hlines : (Text.lines a).length = rows.length + before.length := by
    rw [h.first.eq, hafter, List.length_append, List.append_nil, h.length_rows hread, Nat.add_comm]
  rw [h.read_ok hread, hgap, List.nil_append, namesNumber_readNumberedLine.mapM_zipIdx_add,
    mapError_later, hsecond, hlines]

/-- **The law of two tables in one text.** The first text ends in a line feed, and each has a full
line. If the first is refused, the whole is refused for the same fault. If it is a table, a blank
line where the two meet is refused, behind the last full line of the first. Without such a line
the fault of the second text is met, later by the number of lines of the first; and if there is
none, the rows are those of the first text and then those of the second. -/
theorem read_append (hend : a.getLast? = some '\n')
    (ha : ∃ line ∈ Text.lines a, isBlankLine line = false)
    (hb : ∃ line ∈ Text.lines b, isBlankLine line = false) :
    (∀ fault, read a = .error fault → read (a ++ b) = .error fault)
      ∧ ∀ rows, read a = .ok rows →
        (BlankBetween a b → ∃ number reason, IsLastFull a number
          ∧ read (a ++ b) = .error (.malformedRow (number + 1) reason)
          ∧ reason.text = "expected 4 fields, found 0".toList)
        ∧ (¬ BlankBetween a b →
          (∀ fault, read b = .error fault → ∃ number reason, fault = .malformedRow number reason
            ∧ read (a ++ b)
              = .error (.malformedRow (number + (Text.lines a).length) reason))
          ∧ ∀ rows', read b = .ok rows' → read (a ++ b) = .ok (rows ++ rows')) := by
  obtain ⟨before, body, after, before', body', after', h⟩ := exists_joined hend ha hb
  refine ⟨fun fault => h.read_error, fun rows hread => ⟨fun hblank => ?_, fun hblank => ?_⟩⟩
  · exact ⟨_, _, h.isLastFull, h.read_of_blankBetween hread hblank, by decide⟩
  · -- no gap: what is read of the second text is only shifted
    rw [h.read_of_not_blankBetween hread hblank]
    constructor
    · intro fault hfault
      obtain ⟨number, reason, rfl⟩ := exists_malformedRow_of_read hfault
      refine ⟨number, reason, rfl, ?_⟩
      rw [hfault, Nat.add_comm number]
      rfl
    · intro rows' hrows'
      rw [hrows']
      rfl

/-- The second line of the second text, behind two lines of the first. -/
theorem read_append_later :
    "\n1 2 3 4\n".toList.getLast? = some '\n'
      ∧ (∃ line ∈ Text.lines "\n1 2 3 4\n".toList, isBlankLine line = false)
      ∧ (∃ line ∈ Text.lines "5 6 7 8\n9\n\n".toList, isBlankLine line = false)
      ∧ read "\n1 2 3 4\n".toList = .ok [⟨1, 2, 3, 4⟩]
      ∧ ¬ BlankBetween "\n1 2 3 4\n".toList "5 6 7 8\n9\n\n".toList
      ∧ read "5 6 7 8\n9\n\n".toList = .error (.malformedRow 2 (.columnCount 1))
      ∧ read "\n1 2 3 4\n5 6 7 8\n9\n\n".toList = .error (.malformedRow 4 (.columnCount 1)) := by
  have hfirst : ∃ line ∈ Text.lines "\n1 2 3 4\n".toList, isBlankLine line = false := by
    decide +kernel
  have hsecond : ∃ line ∈ Text.lines "5 6 7 8\n9\n\n".toList, isBlankLine line = false := by
    decide +kernel
  have hrows : read "\n1 2 3 4\n".toList = .ok [⟨1, 2, 3, 4⟩] := by decide +kernel
  have hmeet : ¬ BlankBetween "\n1 2 3 4\n".toList "5 6 7 8\n9\n\n".toList := by
    unfold BlankBetween
    decide +kernel
  have hfault : read "5 6 7 8\n9\n\n".toList = .error (.malformedRow 2 (.columnCount 1)) := by
    decide +kernel
  obtain ⟨number, reason, hmalformed, hwhole⟩ :=
    (((read_append rfl hfirst hsecond).2 _ hrows).2 hmeet).1 _ hfault
  obtain ⟨rfl, rfl⟩ := Fault.malformedRow.inj hmalformed
  exact ⟨rfl, hfirst, hsecond, hrows, hmeet, hfault, hwhole⟩

/-- Each text is a table, and the blank line behind the first is not. -/
example : read ("1 2 3 4\n\n".toList ++ "5 6 7 8".toList)
    = .error (.malformedRow 2 (.columnCount 0)) := by decide +kernel

end DecoderKit.Table
