import DecoderKit.Text.Split

/-!
# What the physical lines of a text are

`Text.lines` walks over a text and decides at each character. What the walk comes to
is said here without it: `Cut t ls` holds when `t` is the lines `ls` in order, each
with its ending behind it, a line feed or a carriage return and a line feed. Only
the last line may go without an ending, and then it is not empty.

The one subtle case is a line that ends in a carriage return of its own. Behind it
a bare line feed would take that carriage return into the ending, so `Cut.feed`
excludes it. This is what makes the cut unique, and `lines_eq_iff` an equivalence.
-/

namespace DecoderKit.Text

/-- The text is made of these lines, each with its ending. -/
inductive Cut : Text → List Text → Prop where
  /-- An empty text has no lines. -/
  | empty : Cut [] []
  /-- A last line without an ending. -/
  | unended {line : Text} : line ≠ [] → '\n' ∉ line → Cut line [line]
  /-- A line that ends in a line feed. -/
  | feed {line rest : Text} {ls : List Text} :
      '\n' ∉ line → line.getLast? ≠ some '\r' → Cut rest ls →
      Cut (line ++ '\n' :: rest) (line :: ls)
  /-- A line that ends in a carriage return and a line feed. -/
  | returnFeed {line rest : Text} {ls : List Text} :
      '\n' ∉ line → Cut rest ls → Cut (line ++ '\r' :: '\n' :: rest) (line :: ls)

/-! ## One character in front -/

theorem lines_cons_nil {c : Char} (hc : c ≠ '\n') : lines [c] = [[c]] := by
  rw [lines]
  · rfl
  · intro rest _ h; exact absurd h (by simp)
  · exact hc

/-- A character that ends no line goes to the front of the first line. -/
theorem lines_cons {c : Char} {rest line : Text} {ls : List Text} (hc : c ≠ '\n')
    (hr : c = '\r' → rest.head? ≠ some '\n') (h : lines rest = line :: ls) :
    lines (c :: rest) = (c :: line) :: ls := by
  rw [lines]
  · rw [h]
  · intro rest' hcr hrest
    exact hr hcr (by rw [hrest]; rfl)
  · exact hc

theorem head?_ne_of_not_mem {line rest : Text} (hne : line ≠ []) (h : '\n' ∉ line) :
    (line ++ rest).head? ≠ some '\n' := by
  cases line with
  | nil => exact absurd rfl hne
  | cons c line =>
      intro hc
      exact h (Option.some.inj hc ▸ List.mem_cons_self ..)

/-! ## One line in front -/

theorem lines_unended {line : Text} (hne : line ≠ []) (h : '\n' ∉ line) :
    lines line = [line] := by
  induction line with
  | nil => exact absurd rfl hne
  | cons c rest ih =>
      obtain ⟨hc, hrest⟩ := List.ne_and_not_mem_of_not_mem_cons h
      by_cases hnil : rest = []
      · subst hnil; exact lines_cons_nil (Ne.symm hc)
      · refine lines_cons (Ne.symm hc) (fun _ => ?_) (ih hnil hrest)
        have hhead : (rest ++ []).head? ≠ some '\n' := head?_ne_of_not_mem hnil hrest
        rwa [List.append_nil] at hhead

theorem lines_feed {line rest : Text} (h : '\n' ∉ line) (hr : line.getLast? ≠ some '\r') :
    lines (line ++ '\n' :: rest) = line :: lines rest := by
  induction line with
  | nil => rw [List.nil_append, lines]
  | cons c line ih =>
      obtain ⟨hc, hline⟩ := List.ne_and_not_mem_of_not_mem_cons h
      by_cases hnil : line = []
      · -- the line feed follows at once, so `c` is no carriage return
        subst hnil
        refine lines_cons (Ne.symm hc) (fun hcr => ?_) (ih hline (by simp))
        exact absurd (by rw [hcr]; rfl) hr
      · have hlast : line.getLast? ≠ some '\r' := by
          rwa [List.getLast?_cons_of_ne_nil hnil] at hr
        exact lines_cons (Ne.symm hc) (fun _ => head?_ne_of_not_mem hnil hline) (ih hline hlast)

theorem lines_returnFeed {line rest : Text} (h : '\n' ∉ line) :
    lines (line ++ '\r' :: '\n' :: rest) = line :: lines rest := by
  induction line with
  | nil => rw [List.nil_append, lines]
  | cons c line ih =>
      obtain ⟨hc, hline⟩ := List.ne_and_not_mem_of_not_mem_cons h
      refine lines_cons (Ne.symm hc) (fun _ => ?_) (ih hline)
      by_cases hnil : line = []
      · subst hnil; simp
      · exact head?_ne_of_not_mem hnil hline

/-! ## The walk and the cut -/

theorem Cut.eq_nil {t : Text} (h : Cut t []) : t = [] := by
  cases h with
  | empty => rfl

/-- A character that ends no line goes to the front of the first line of a cut. -/
theorem Cut.cons {c : Char} {rest line : Text} {ls : List Text} (hc : c ≠ '\n')
    (hr : c = '\r' → rest.head? ≠ some '\n') (h : Cut rest (line :: ls)) :
    Cut (c :: rest) ((c :: line) :: ls) := by
  cases h with
  | unended hne hline =>
      exact Cut.unended (by simp) (List.not_mem_cons_of_ne_of_not_mem (Ne.symm hc) hline)
  | feed hline hlast hrest =>
      have hmem : '\n' ∉ c :: line := List.not_mem_cons_of_ne_of_not_mem (Ne.symm hc) hline
      refine @Cut.feed (c :: line) _ _ hmem ?_ hrest
      by_cases hnil : line = []
      · -- the line feed follows at once, so `c` is no carriage return
        subst hnil
        intro hcr
        exact hr (by simpa using hcr) rfl
      · rwa [List.getLast?_cons_of_ne_nil hnil]
  | returnFeed hline hrest =>
      have hmem : '\n' ∉ c :: line := List.not_mem_cons_of_ne_of_not_mem (Ne.symm hc) hline
      exact @Cut.returnFeed (c :: line) _ _ hmem hrest

/-- The lines that the walk finds cut the text. -/
theorem cut_lines (t : Text) : Cut t (lines t) := by
  induction t using lines.induct with
  | case1 => rw [lines]; exact Cut.empty
  | case2 rest ih =>
      rw [lines]
      exact @Cut.returnFeed [] _ _ (by simp) ih
  | case3 rest ih =>
      rw [lines]
      exact @Cut.feed [] _ _ (by simp) (by simp) ih
  | case4 c rest hcr hc hnil ih =>
      -- no line comes behind `c`, so it is the last line, without an ending
      rw [hnil] at ih
      have hrest := ih.eq_nil
      subst hrest
      rw [lines_cons_nil hc]
      exact Cut.unended (by simp) (by simpa using Ne.symm hc)
  | case5 c rest hcr hc line ls hls ih =>
      rw [hls] at ih
      -- the second case has taken a carriage return with a line feed behind it
      have hr : c = '\r' → rest.head? ≠ some '\n' := by
        intro h hh
        obtain ⟨rest', hrest⟩ := List.head?_eq_some_iff.mp hh
        exact hcr rest' h hrest
      rw [lines_cons hc hr hls]
      exact ih.cons hc hr

theorem lines_of_cut {t : Text} {ls : List Text} (h : Cut t ls) : lines t = ls := by
  induction h with
  | empty => rw [lines]
  | unended hne hline => exact lines_unended hne hline
  | feed hline hlast _ ih => rw [lines_feed hline hlast, ih]
  | returnFeed hline _ ih => rw [lines_returnFeed hline, ih]

/-- **A text has exactly one cut into lines, and the walk finds it.** -/
theorem lines_eq_iff {t : Text} {ls : List Text} : lines t = ls ↔ Cut t ls :=
  ⟨fun h => h ▸ cut_lines t, lines_of_cut⟩

/-- Behind a line feed a text goes on to its end. -/
theorem eq_feed_of_mem_getLast? {line rest : Text}
    (h : ∀ c ∈ (line ++ '\n' :: rest).getLast?, c = '\n') : ∀ c ∈ rest.getLast?, c = '\n' := by
  intro c hc
  obtain ⟨front, hrest⟩ := List.getLast?_eq_some_iff.mp hc
  refine h c (List.getLast?_eq_some_iff.mpr ⟨line ++ '\n' :: front, ?_⟩)
  rw [hrest, List.append_assoc, List.cons_append]

/-- Two cuts are one behind the other, if the first text ends where a line does. -/
theorem Cut.append {a b : Text} {ls ms : List Text} (h : Cut a ls) (h' : Cut b ms)
    (hend : ∀ c ∈ a.getLast?, c = '\n') : Cut (a ++ b) (ls ++ ms) := by
  induction h with
  | empty => exact h'
  | unended hne hline =>
      -- such a line does not end in a line feed
      have hfeed := hend _ (List.getLast?_eq_some_getLast hne)
      exact absurd (hfeed ▸ List.getLast_mem hne) hline
  | feed hline hlast _ ih =>
      rw [List.append_assoc, List.cons_append]
      exact Cut.feed hline hlast (ih (eq_feed_of_mem_getLast? hend))
  | @returnFeed line rest _ hline _ ih =>
      rw [show line ++ '\r' :: '\n' :: rest = (line ++ ['\r']) ++ '\n' :: rest by simp] at hend
      rw [List.append_assoc, List.cons_append, List.cons_append]
      exact Cut.returnFeed hline (ih (eq_feed_of_mem_getLast? hend))

/-- **The lines of two texts in a row are those of each**, if the first ends where a line does. -/
theorem lines_append {a : Text} (hend : ∀ c ∈ a.getLast?, c = '\n') (b : Text) :
    lines (a ++ b) = lines a ++ lines b :=
  lines_of_cut ((cut_lines a).append (cut_lines b) hend)

/-- Lines that are written one after the other are read back. -/
theorem lines_flatMap_feed {ls : List Text} (h : ∀ line ∈ ls, '\n' ∉ line)
    (hr : ∀ line ∈ ls, line.getLast? ≠ some '\r') :
    lines (ls.flatMap fun line => line ++ ['\n']) = ls := by
  induction ls with
  | nil => rw [List.flatMap_nil, lines]
  | cons line ls ih =>
      obtain ⟨hline, hls⟩ := List.forall_mem_cons.mp h
      obtain ⟨hlast, hlasts⟩ := List.forall_mem_cons.mp hr
      rw [List.flatMap_cons, List.append_assoc, List.singleton_append, lines_feed hline hlast,
        ih hls hlasts]

/-! ## Lines by their numbers -/

/-- The line of the text with this number. Lines count from one. -/
def IsLine (t : Text) (number : Nat) (line : Text) : Prop :=
  1 ≤ number ∧ (lines t)[number - 1]? = some line

/-- A number belongs to one line at most. -/
theorem IsLine.unique {t : Text} {number : Nat} {line line' : Text} (h : IsLine t number line)
    (h' : IsLine t number line') : line = line' :=
  Option.some.inj (h.2.symm.trans h'.2)

end DecoderKit.Text
