import DecoderKit.Text.Split

/-!
# What the pieces of a list are

`piecesBetween` cuts at every separator and then throws the empty parts away. A
reader of the result wants to know less and more: that the pieces are not empty and
hold no separator, that nothing but separators stands between them, and that two
pieces never touch. `Spaced` says just that, and `piecesBetween_eq_iff` says that
it leaves one choice, the one that `piecesBetween` makes.

The pieces of a text between its blanks are its words.
-/

namespace DecoderKit

variable {α : Type} {isSeparator : α → Bool}

/-- The list is made of these pieces, with separators between them and around them. -/
inductive Spaced (isSeparator : α → Bool) : List α → List (List α) → Prop where
  /-- Separators only. -/
  | gap {g : List α} : (∀ c ∈ g, isSeparator c = true) → Spaced isSeparator g []
  /-- A piece behind a gap. What follows it is empty or starts with a separator. -/
  | piece {g w rest : List α} {ws : List (List α)} :
      (∀ c ∈ g, isSeparator c = true) → w ≠ [] → (∀ c ∈ w, isSeparator c = false) →
      (∀ c ∈ rest.head?, isSeparator c = true) → Spaced isSeparator rest ws →
      Spaced isSeparator (g ++ w ++ rest) (w :: ws)

/-! ## Equations of `piecesBetween` -/

/-- Pieces on both sides of a separator are found apart. -/
theorem piecesBetween_append_cons {c : α} (hc : isSeparator c = true) (l r : List α) :
    piecesBetween isSeparator (l ++ c :: r)
      = piecesBetween isSeparator l ++ piecesBetween isSeparator r := by
  unfold piecesBetween
  rw [List.splitOnP_append_cons l r hc, List.filter_append]

theorem piecesBetween_nil : piecesBetween isSeparator [] = [] := by
  simp [piecesBetween]

theorem piecesBetween_cons {c : α} (hc : isSeparator c = true) (l : List α) :
    piecesBetween isSeparator (c :: l) = piecesBetween isSeparator l := by
  have h := piecesBetween_append_cons hc [] l
  rwa [List.nil_append, piecesBetween_nil, List.nil_append] at h

theorem piecesBetween_gap_append {g : List α} (hg : ∀ c ∈ g, isSeparator c = true)
    (l : List α) : piecesBetween isSeparator (g ++ l) = piecesBetween isSeparator l := by
  induction g with
  | nil => rfl
  | cons c g ih =>
      rw [List.cons_append, piecesBetween_cons (hg c (List.mem_cons_self ..))]
      exact ih fun d hd => hg d (List.mem_cons_of_mem _ hd)

/-- Separators in the middle keep the pieces on both sides apart. -/
theorem piecesBetween_append_gap_append {g : List α} (hne : g ≠ [])
    (hg : ∀ c ∈ g, isSeparator c = true) (l r : List α) :
    piecesBetween isSeparator (l ++ (g ++ r))
      = piecesBetween isSeparator l ++ piecesBetween isSeparator r := by
  cases g with
  | nil => exact absurd rfl hne
  | cons c g =>
      obtain ⟨hc, hrest⟩ := List.forall_mem_cons.mp hg
      rw [List.cons_append, piecesBetween_append_cons hc, piecesBetween_gap_append hrest]

theorem piecesBetween_append_gap {g : List α} (hg : ∀ c ∈ g, isSeparator c = true)
    (l : List α) : piecesBetween isSeparator (l ++ g) = piecesBetween isSeparator l := by
  by_cases hne : g = []
  · rw [hne, List.append_nil]
  · have h := piecesBetween_append_gap_append hne hg l []
    rwa [List.append_nil, piecesBetween_nil, List.append_nil] at h

theorem piecesBetween_piece {w : List α} (hne : w ≠ [])
    (hw : ∀ c ∈ w, isSeparator c = false) : piecesBetween isSeparator w = [w] := by
  rw [piecesBetween, List.splitOnP_eq_singleton hw]
  simp [hne]

theorem piecesBetween_piece_append {w rest : List α} (hne : w ≠ [])
    (hw : ∀ c ∈ w, isSeparator c = false) (hrest : ∀ c ∈ rest.head?, isSeparator c = true) :
    piecesBetween isSeparator (w ++ rest) = w :: piecesBetween isSeparator rest := by
  cases rest with
  | nil => rw [List.append_nil, piecesBetween_piece hne hw, piecesBetween_nil]
  | cons c rest =>
      have hc : isSeparator c = true := hrest c rfl
      rw [piecesBetween_append_cons hc, piecesBetween_piece hne hw, piecesBetween_cons hc]
      rfl

/-! ## Every list is spaced in one way -/

theorem Spaced.cons_separator {c : α} {l : List α} {ws : List (List α)}
    (hc : isSeparator c = true) (h : Spaced isSeparator l ws) :
    Spaced isSeparator (c :: l) ws := by
  cases h with
  | gap hg => exact Spaced.gap (List.forall_mem_cons.mpr ⟨hc, hg⟩)
  | @piece g w rest ws hg hne hw hrest h =>
      exact Spaced.piece (g := c :: g) (List.forall_mem_cons.mpr ⟨hc, hg⟩) hne hw hrest h

/-- A list that starts with no separator starts with its first piece. -/
theorem Spaced.exists_head {d : α} {l : List α} {ws : List (List α)}
    (hd : isSeparator d = false) (h : Spaced isSeparator (d :: l) ws) :
    ∃ w rest ws', ws = w :: ws' ∧ d :: l = w ++ rest ∧ (∀ c ∈ w, isSeparator c = false)
      ∧ (∀ c ∈ rest.head?, isSeparator c = true) ∧ Spaced isSeparator rest ws' := by
  generalize hdl : d :: l = dl at h
  cases h with
  | gap hg =>
      have hsep := hg d (hdl ▸ List.mem_cons_self ..)
      rw [hd] at hsep
      exact Bool.noConfusion hsep
  | @piece g w rest ws hg hne hw hrest h =>
      cases g with
      | nil => exact ⟨w, rest, ws, rfl, by simp, hw, hrest, h⟩
      | cons c g =>
          -- a gap in front would start with `d`
          have hdc : d = c := by simpa using congrArg List.head? hdl
          have hsep := hg c (List.mem_cons_self ..)
          rw [← hdc, hd] at hsep
          exact Bool.noConfusion hsep

theorem Spaced.exists_cons {c : α} {l : List α} {ws : List (List α)}
    (hc : isSeparator c = false) (h : Spaced isSeparator l ws) :
    ∃ ws', Spaced isSeparator (c :: l) ws' := by
  have hone : ∀ d ∈ [c], isSeparator d = false := by simpa using hc
  -- `c` is a piece of its own, except where a piece follows that it belongs to
  cases l with
  | nil => exact ⟨_, Spaced.piece (g := []) (w := [c]) (by simp) (by simp) hone (by simp) h⟩
  | cons d l =>
      cases hd : isSeparator d with
      | true =>
          exact ⟨_, Spaced.piece (g := []) (w := [c]) (by simp) (by simp) hone
            (by simpa using hd) h⟩
      | false =>
          obtain ⟨w, rest, ws', _, hl, hw, hrest, h'⟩ := h.exists_head hd
          have := Spaced.piece (g := []) (w := c :: w) (by simp) (by simp)
            (List.forall_mem_cons.mpr ⟨hc, hw⟩) hrest h'
          exact ⟨_, by rw [hl]; exact this⟩

theorem exists_spaced (l : List α) : ∃ ws, Spaced isSeparator l ws := by
  induction l with
  | nil => exact ⟨[], Spaced.gap (by simp)⟩
  | cons c l ih =>
      obtain ⟨ws, h⟩ := ih
      cases hc : isSeparator c with
      | true => exact ⟨ws, h.cons_separator hc⟩
      | false => exact h.exists_cons hc

theorem piecesBetween_of_spaced {l : List α} {ws : List (List α)}
    (h : Spaced isSeparator l ws) : piecesBetween isSeparator l = ws := by
  induction h with
  | gap hg =>
      have h := piecesBetween_gap_append hg []
      rwa [List.append_nil, piecesBetween_nil] at h
  | piece hg hne hw hrest _ ih =>
      rw [List.append_assoc, piecesBetween_gap_append hg,
        piecesBetween_piece_append hne hw hrest, ih]

/-- What is no separator belongs to a piece. -/
theorem Spaced.separator_or_mem {l : List α} {ws : List (List α)} (h : Spaced isSeparator l ws) :
    ∀ c ∈ l, isSeparator c = true ∨ ∃ w ∈ ws, c ∈ w := by
  induction h with
  | gap hg => exact fun c hc => Or.inl (hg c hc)
  | @piece g w rest ws hg _ _ _ _ ih =>
      intro c hc
      rcases List.mem_append.mp hc with hc | hc
      · rcases List.mem_append.mp hc with hc | hc
        · exact Or.inl (hg c hc)
        · exact Or.inr ⟨w, List.mem_cons_self .., hc⟩
      · rcases ih c hc with hsep | ⟨w', hw', hmem⟩
        · exact Or.inl hsep
        · exact Or.inr ⟨w', List.mem_cons_of_mem _ hw', hmem⟩

/-- **The pieces of a list are the one way in which it is spaced.** -/
theorem piecesBetween_eq_iff {l : List α} {ws : List (List α)} :
    piecesBetween isSeparator l = ws ↔ Spaced isSeparator l ws := by
  refine ⟨fun h => ?_, piecesBetween_of_spaced⟩
  obtain ⟨ws', hws'⟩ : ∃ ws', Spaced isSeparator l ws' := exists_spaced l
  rw [← h, piecesBetween_of_spaced hws']
  exact hws'

/-- Pieces that are joined by separators are spaced. -/
theorem spaced_intercalate {g : List α} {ws : List (List α)} (hne : g ≠ [])
    (hg : ∀ c ∈ g, isSeparator c = true)
    (hws : ∀ w ∈ ws, w ≠ [] ∧ ∀ c ∈ w, isSeparator c = false) :
    Spaced isSeparator (g.intercalate ws) ws := by
  rw [← piecesBetween_eq_iff]
  induction ws with
  | nil => rw [List.intercalate_nil, piecesBetween_nil]
  | cons w ws ih =>
      -- one piece at a time is found in front of the others
      obtain ⟨⟨hw, hchars⟩, hrest⟩ := List.forall_mem_cons.mp hws
      cases ws with
      | nil => rw [List.intercalate_singleton, piecesBetween_piece hw hchars]
      | cons w' ws =>
          rw [List.intercalate_cons_cons, List.append_assoc,
            piecesBetween_append_gap_append hne hg, piecesBetween_piece hw hchars, ih hrest]
          rfl

/-- Only a list of separators has no pieces. -/
theorem piecesBetween_eq_nil_iff {l : List α} :
    piecesBetween isSeparator l = [] ↔ ∀ c ∈ l, isSeparator c = true := by
  rw [piecesBetween_eq_iff]
  refine ⟨fun h => ?_, Spaced.gap⟩
  cases h with
  | gap hg => exact hg

namespace Text

theorem words_eq_iff {t : Text} {ws : List Text} : words t = ws ↔ Spaced isBlank t ws :=
  piecesBetween_eq_iff

theorem words_eq_nil_iff {t : Text} : words t = [] ↔ isBlankLine t = true := by
  rw [words, piecesBetween_eq_nil_iff, isBlankLine, List.all_eq_true]

end Text

end DecoderKit
