import Mathlib.Logic.Relation
import DecoderKit.Proofs.Text.Lines
import DecoderKit.Proofs.Text.Pieces

/-!
# Texts that differ in their blanks

A text copied by hand comes with blanks of all kinds: tabs for spaces, blanks at the ends of
lines, line endings of another system. `Respaced` is one change of that sort, in one place,
and two texts are `SpacedAlike` when such changes lead from one to the other, forwards or
backwards.

A change is made within one line. It may move the words of this line further apart, but it
leaves no word without a gap to the next and puts none into a word, so the words of the line
are the same. What the line feeds cut a text into is then the same, as far as words go
(`wordLines_of_spacedAlike`). That is not yet said of the lines: a carriage return at the end
of a line belongs to its ending, and blanks behind the last line feed are a line of their own.
The first is blank, and the second a blank line at the end (`exists_wordLines_eq`).
-/

namespace DecoderKit.Text

/-- Blanks that can stand within a line. -/
structure IsSpacing (g : Text) : Prop where
  ne_nil : g ≠ []
  isBlank : ∀ c ∈ g, isBlank c = true
  feedless : '\n' ∉ g

theorem isSpacing_singleton {c : Char} (hblank : isBlank c = true) (hne : c ≠ '\n') :
    IsSpacing [c] where
  ne_nil := List.cons_ne_nil c []
  isBlank := List.forall_mem_singleton.mpr hblank
  feedless := fun hmem => hne (List.mem_singleton.mp hmem).symm

/-- One change of the blanks of a text. -/
inductive Respaced : Text → Text → Prop where
  /-- Blanks within a line are replaced by others. -/
  | replaced {front g g' rear : Text} : IsSpacing g → IsSpacing g' →
      Respaced (front ++ (g ++ rear)) (front ++ (g' ++ rear))
  /-- Blanks are put at the start of a line. -/
  | indented {front g rear : Text} : IsSpacing g → (∀ c ∈ front.getLast?, c = '\n') →
      Respaced (front ++ rear) (front ++ (g ++ rear))
  /-- Blanks are put at the end of a line. -/
  | trailed {front g rear : Text} : IsSpacing g → (∀ c ∈ rear.head?, c = '\n') →
      Respaced (front ++ rear) (front ++ (g ++ rear))
  /-- A line feed becomes a carriage return and a line feed. -/
  | returned {front rear : Text} :
      Respaced (front ++ '\n' :: rear) (front ++ '\r' :: '\n' :: rear)

/-- Changes of blanks lead from one text to the other, forwards or backwards. -/
def SpacedAlike : Text → Text → Prop := Relation.EqvGen Respaced

/-! ## The words between line feeds -/

/-- The words of each stretch of a text between line feeds. -/
def wordLines (t : Text) : List (List Text) := (t.splitOn '\n').map words

theorem wordLines_append_feed (x y : Text) :
    wordLines (x ++ '\n' :: y) = wordLines x ++ wordLines y := by
  unfold wordLines List.splitOn
  rw [List.splitOnP_append_cons x y (by simp), List.map_append]

theorem wordLines_of_not_mem {x : Text} (h : '\n' ∉ x) : wordLines x = [words x] := by
  have hno : ∀ c ∈ x, (c == '\n') = false := by
    intro c hc
    rw [beq_eq_false_iff_ne]
    rintro rfl
    exact h hc
  unfold wordLines List.splitOn
  rw [List.splitOnP_eq_singleton hno, List.map_singleton]

theorem eq_nil_of_head? {x : Text} (hfree : '\n' ∉ x) (h : ∀ c ∈ x.head?, c = '\n') : x = [] := by
  cases x with
  | nil => rfl
  | cons c x =>
      have hfeed : c = '\n' := h c rfl
      exact absurd (hfeed ▸ List.mem_cons_self ..) hfree

theorem eq_nil_of_getLast? {x : Text} (hfree : '\n' ∉ x) (h : ∀ c ∈ x.getLast?, c = '\n') :
    x = [] := by
  rw [← List.reverse_eq_nil_iff]
  refine eq_nil_of_head? (fun hmem => hfree (List.mem_reverse.mp hmem)) ?_
  rwa [List.head?_reverse]

/-- What comes before a place in a text has a part in the words of its line by what stands in
that line only. -/
theorem exists_lineStart (front : Text) : ∃ before start, '\n' ∉ start
    ∧ ((∀ c ∈ front.getLast?, c = '\n') → start = [])
    ∧ ∀ rest, wordLines (front ++ rest) = before ++ wordLines (start ++ rest) := by
  by_cases hmem : '\n' ∈ front
  · -- the last line feed is the first one from behind
    obtain ⟨xs, ys, hrev, hxs⟩ := List.eq_append_cons_of_mem (List.mem_reverse.mpr hmem)
    have hfree : '\n' ∉ xs.reverse := fun h => hxs (List.mem_reverse.mp h)
    have hfront : front = ys.reverse ++ '\n' :: xs.reverse := by
      rw [← List.reverse_reverse front, hrev]
      simp
    refine ⟨wordLines ys.reverse, xs.reverse, hfree, fun hend => ?_, fun rest => ?_⟩
    · rw [hfront] at hend
      exact eq_nil_of_getLast? hfree (eq_feed_of_mem_getLast? hend)
    · rw [hfront, List.append_assoc, List.cons_append, wordLines_append_feed]
  · exact ⟨[], front, hmem, eq_nil_of_getLast? hmem, fun rest => rfl⟩

/-- And so does what comes behind it. -/
theorem exists_lineEnd (rear : Text) : ∃ ending after, '\n' ∉ ending
    ∧ ((∀ c ∈ rear.head?, c = '\n') → ending = [])
    ∧ ∀ start, '\n' ∉ start → wordLines (start ++ rear) = words (start ++ ending) :: after := by
  by_cases hmem : '\n' ∈ rear
  · obtain ⟨ending, ys, hrear, hfree⟩ := List.eq_append_cons_of_mem hmem
    refine ⟨ending, wordLines ys, hfree, fun hhead => ?_, fun start hstart => ?_⟩
    · refine eq_nil_of_head? hfree ?_
      intro c hc
      refine hhead c ?_
      rw [hrear, List.head?_append, hc]
      rfl
    · have hline : '\n' ∉ start ++ ending := by simp [hstart, hfree]
      rw [hrear, ← List.append_assoc, wordLines_append_feed, wordLines_of_not_mem hline]
      rfl
  · refine ⟨rear, [], hmem, eq_nil_of_head? hmem, fun start hstart => ?_⟩
    exact wordLines_of_not_mem (by simp [hstart, hmem])

/-- What is put at a place in a line has a part in the words of this line only. -/
theorem exists_line (front rear : Text) : ∃ before start ending after,
    ((∀ c ∈ front.getLast?, c = '\n') → start = [])
      ∧ ((∀ c ∈ rear.head?, c = '\n') → ending = [])
      ∧ ∀ middle, '\n' ∉ middle → wordLines (front ++ (middle ++ rear))
        = before ++ words (start ++ (middle ++ ending)) :: after := by
  obtain ⟨before, start, hstart, hfront, hbefore⟩ := exists_lineStart front
  obtain ⟨ending, after, _, hrear, hafter⟩ := exists_lineEnd rear
  refine ⟨before, start, ending, after, hfront, hrear, fun middle hmiddle => ?_⟩
  have hline : '\n' ∉ start ++ middle := by simp [hstart, hmiddle]
  rw [hbefore, ← List.append_assoc, hafter _ hline, List.append_assoc]

/-! ## Changes of blanks keep the words -/

theorem wordLines_trailed {front g rear : Text} (hg : IsSpacing g)
    (hrear : ∀ c ∈ rear.head?, c = '\n') :
    wordLines (front ++ rear) = wordLines (front ++ (g ++ rear)) := by
  obtain ⟨before, start, ending, after, _, hending, hline⟩ := exists_line front rear
  have hnone := hline [] List.not_mem_nil
  have hsome := hline g hg.feedless
  rw [List.nil_append, hending hrear, List.append_nil, List.append_nil] at hnone
  rw [hending hrear, List.append_nil] at hsome
  rw [hnone, hsome, words, words, piecesBetween_append_gap hg.isBlank]

/-- **One change keeps the words.** -/
theorem wordLines_of_respaced {t t' : Text} (h : Respaced t t') : wordLines t = wordLines t' := by
  cases h with
  | @replaced front g g' rear hg hg' =>
      obtain ⟨before, start, ending, after, _, _, hline⟩ := exists_line front rear
      rw [hline g hg.feedless, hline g' hg'.feedless, words, words,
        piecesBetween_append_gap_append hg.ne_nil hg.isBlank,
        piecesBetween_append_gap_append hg'.ne_nil hg'.isBlank]
  | @indented front g rear hg hfront =>
      obtain ⟨before, start, ending, after, hstart, _, hline⟩ := exists_line front rear
      have hnone := hline [] List.not_mem_nil
      have hsome := hline g hg.feedless
      rw [List.nil_append, hstart hfront, List.nil_append] at hnone
      rw [hstart hfront, List.nil_append] at hsome
      rw [hnone, hsome, words, words, List.nil_append, piecesBetween_gap_append hg.isBlank]
  | trailed hg hrear => exact wordLines_trailed hg hrear
  | returned =>
      -- a carriage return is a blank at the end of the line
      exact wordLines_trailed (isSpacing_singleton (c := '\r') (by decide) (by decide)) (by simp)

/-- **Any number of changes keep the words.** -/
theorem wordLines_of_spacedAlike {t t' : Text} (h : SpacedAlike t t') :
    wordLines t = wordLines t' := by
  induction h with
  | rel t t' h => exact wordLines_of_respaced h
  | refl t => rfl
  | symm t t' _ ih => exact ih.symm
  | trans t t' t'' _ _ ih ih' => exact ih.trans ih'

/-! ## Lines and what is between line feeds -/

/-- The lines of a text have the words of what is between its line feeds, except that there may
be something without words behind the last line feed. -/
theorem exists_wordLines_eq (t : Text) :
    ∃ rest, wordLines t = (lines t).map words ++ rest ∧ ∀ ws ∈ rest, ws = [] := by
  have hcut := cut_lines t
  generalize lines t = ls at hcut
  induction hcut with
  | empty => exact ⟨[[]], rfl, by simp⟩
  | unended hne hline => exact ⟨[], by rw [wordLines_of_not_mem hline]; rfl, by simp⟩
  | @feed line rest ls hline _ _ ih =>
      obtain ⟨blank, hblank, hnil⟩ := ih
      refine ⟨blank, ?_, hnil⟩
      rw [wordLines_append_feed, wordLines_of_not_mem hline, hblank]
      rfl
  | @returnFeed line rest ls hline _ ih =>
      -- the carriage return is not in the line, but before the feed it is a blank like others
      obtain ⟨blank, hblank, hnil⟩ := ih
      have hreturn : '\n' ∉ line ++ ['\r'] := by simp [hline]
      have hwords : words (line ++ ['\r']) = words line :=
        piecesBetween_append_gap (List.forall_mem_singleton.mpr (by decide)) line
      refine ⟨blank, ?_, hnil⟩
      rw [show line ++ '\r' :: '\n' :: rest = (line ++ ['\r']) ++ '\n' :: rest by simp,
        wordLines_append_feed, wordLines_of_not_mem hreturn, hwords, hblank]
      rfl

end DecoderKit.Text
