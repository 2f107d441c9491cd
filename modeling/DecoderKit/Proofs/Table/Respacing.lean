import DecoderKit.Proofs.Table.Block
import DecoderKit.Proofs.Text.Respacing

/-!
# Tables and their blanks

The reader of a table looks at blanks three times: a carriage return may belong to the end of
a line, blank lines are dropped at both ends, and the columns of a row are the words of its
line. For tables to be read alike on every system the three have to agree on what a blank is,
and none may take a blank for the end of a line.

They do, so a table depends on the words of a text and on the line feeds between them, and on
nothing else (`read_eq_of_wordLines_eq`). The blank lines at the top are among these line
feeds: they are dropped, but the numbers of all other lines count them.
-/

namespace DecoderKit.Table

open Text (SpacedAlike isBlankLine wordLines words)

variable {t t' : Text} {before body after : List Text}

theorem isEmpty_words (line : Text) : (words line).isEmpty = isBlankLine line := by
  rw [Bool.eq_iff_iff, List.isEmpty_iff, Text.words_eq_nil_iff]

/-- Lines are blank where there are no words, so both are trimmed at the same places. -/
theorem exists_trimmed_wordLines (h : Layout t before body after) :
    ∃ rest, Trimmed List.isEmpty (wordLines t) (before.map words) (body.map words)
      (after.map words ++ rest) := by
  obtain ⟨rest, hwords, hnil⟩ := Text.exists_wordLines_eq t
  refine ⟨rest, ?_⟩
  rw [hwords]
  refine (h.map isEmpty_words).append_after ?_
  intro ws hws
  rw [hnil ws hws]
  rfl

theorem readNumberedLine_congr {line line' : Text} (h : words line = words line') (number : Nat) :
    readNumberedLine (line, number) = readNumberedLine (line', number) := by
  unfold readNumberedLine readRow
  rw [Row.ofLine_congr h]

theorem mapM_readNumberedLine_congr {ls ls' : List Text} (h : ls.map words = ls'.map words)
    (n : Nat) : (ls.zipIdx n).mapM readNumberedLine = (ls'.zipIdx n).mapM readNumberedLine := by
  induction ls generalizing ls' n with
  | nil => rw [List.map_eq_nil_iff.mp h.symm]
  | cons line ls ih =>
      -- there are as many lines in the other text, each with the same words
      cases ls' with
      | nil => exact absurd h (by simp)
      | cons line' ls' =>
          obtain ⟨hline, hrest⟩ := List.cons.inj h
          rw [List.zipIdx_cons, List.zipIdx_cons, List.mapM_cons, List.mapM_cons,
            readNumberedLine_congr hline, ih hrest]

/-- **A table is read from the words between line feeds.** -/
theorem read_eq_of_wordLines_eq (h : wordLines t = wordLines t') : read t = read t' := by
  obtain ⟨before, body, after, hlayout⟩ := exists_trimmed isBlankLine (Text.lines t)
  obtain ⟨before', body', after', hlayout'⟩ := exists_trimmed isBlankLine (Text.lines t')
  obtain ⟨rest, htrim⟩ := exists_trimmed_wordLines hlayout
  obtain ⟨rest', htrim'⟩ := exists_trimmed_wordLines hlayout'
  rw [← h] at htrim'
  obtain ⟨hbody, hbefore⟩ := htrim.unique htrim'
  rw [read_of_layout hlayout, read_of_layout hlayout']
  by_cases hnil : body.map words = []
  · -- no lines are left, and where they would start does not matter
    rw [List.map_eq_nil_iff.mp hnil, List.map_eq_nil_iff.mp (hbody.symm.trans hnil)]
    rfl
  · have hlength : before.length = before'.length := by
      have hmap := congrArg List.length (hbefore hnil)
      rwa [List.length_map, List.length_map] at hmap
    rw [hlength]
    exact mapM_readNumberedLine_congr hbody _

/-- **A table does not depend on its blanks.** Texts whose lines differ in their blanks only hold
the same rows, or are refused for the same reason at the same line. -/
theorem read_eq_of_spacedAlike (h : SpacedAlike t t') : read t' = read t :=
  read_eq_of_wordLines_eq (Text.wordLines_of_spacedAlike h).symm

/-- A text copied to another system: its first line loses the indentation, gets a tab and a line
separator between columns and a carriage return at its end. The second line lacks a column in
both. -/
theorem read_copied :
    SpacedAlike " 7 4 1 16\n300 0 0\n".toList "7\t4\u20281 16\r\n300 0 0\n".toList
      ∧ read " 7 4 1 16\n300 0 0\n".toList = .error (.malformedRow 2 (.columnCount 3))
      ∧ read "7\t4\u20281 16\r\n300 0 0\n".toList = .error (.malformedRow 2 (.columnCount 3)) := by
  have hspace := Text.isSpacing_singleton (c := ' ') (by decide) (by decide)
  have hindent := @Text.Respaced.indented [] [' '] "7 4 1 16\n300 0 0\n".toList hspace (by simp)
  have htab := @Text.Respaced.replaced ['7'] [' '] ['\t'] "4 1 16\n300 0 0\n".toList hspace
    (Text.isSpacing_singleton (by decide) (by decide))
  have hseparator := @Text.Respaced.replaced "7\t4".toList [' '] ['\u2028']
    "1 16\n300 0 0\n".toList hspace (Text.isSpacing_singleton (by decide) (by decide))
  have hreturn := @Text.Respaced.returned "7\t4\u20281 16".toList "300 0 0\n".toList
  have halike : SpacedAlike " 7 4 1 16\n300 0 0\n".toList "7\t4\u20281 16\r\n300 0 0\n".toList :=
    .trans _ _ _ (.symm _ _ (.rel _ _ hindent)) <|
      .trans _ _ _ (.rel _ _ htab) <| .trans _ _ _ (.rel _ _ hseparator) (.rel _ _ hreturn)
  have hread : read " 7 4 1 16\n300 0 0\n".toList = .error (.malformedRow 2 (.columnCount 3)) := by
    decide +kernel
  exact ⟨halike, hread, (read_eq_of_spacedAlike halike).trans hread⟩

end DecoderKit.Table
