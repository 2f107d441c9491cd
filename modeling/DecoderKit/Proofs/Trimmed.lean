import Mathlib.Data.List.TakeWhile
import DecoderKit.Text.Blank

/-!
# Dropping items at both ends of a list

A text is trimmed of its blanks and a table of its blank lines in the same way: what
satisfies a test is dropped from the front, then from the back. `Trimmed` says what
is left without the dropping, as a cut of the list into three parts. Every list has
such a cut, and dropping leaves its middle part.
-/

namespace DecoderKit

variable {α : Type} {p : α → Bool}

/-- The list is cut into two ends that satisfy the test and a body that begins and ends
with an item that does not. -/
structure Trimmed (p : α → Bool) (l before body after : List α) : Prop where
  eq : l = before ++ (body ++ after)
  before : ∀ x ∈ before, p x = true
  after : ∀ x ∈ after, p x = true
  head : ∀ x ∈ body.head?, p x = false
  last : ∀ x ∈ body.getLast?, p x = false

/-- Nothing is dropped where the first item fails the test. -/
theorem dropWhile_eq_self {l : List α} (h : ∀ x ∈ l.head?, p x = false) : l.dropWhile p = l := by
  cases l with
  | nil => rfl
  | cons x l =>
      have hx : p x = false := h x rfl
      exact List.dropWhile_cons_of_neg (by simp [hx])

/-- Dropping stops at the first item that fails the test. -/
theorem dropWhile_append_eq {l rest : List α} (hl : ∀ x ∈ l, p x = true)
    (hrest : ∀ x ∈ rest.head?, p x = false) : (l ++ rest).dropWhile p = rest := by
  rw [List.dropWhile_append_of_pos hl, dropWhile_eq_self hrest]

/-- Dropping from the front of a list in front of such an item does not get past it. -/
theorem dropWhile_append_of_head? {l rest : List α} (hrest : ∀ x ∈ rest.head?, p x = false) :
    (l ++ rest).dropWhile p = l.dropWhile p ++ rest := by
  rw [List.dropWhile_append]
  split
  · rename_i hnil
    rw [dropWhile_eq_self hrest, List.isEmpty_iff.mp hnil, List.nil_append]
  · rfl

/-- Taking stops at the first item that fails the test. -/
theorem takeWhile_append_eq {l rest : List α} (hl : ∀ x ∈ l, p x = true)
    (hrest : ∀ x ∈ rest.head?, p x = false) : (l ++ rest).takeWhile p = l := by
  have hnone : rest.takeWhile p = [] := by
    cases rest with
    | nil => rfl
    | cons x rest =>
        have hx : p x = false := hrest x rfl
        exact List.takeWhile_cons_of_neg (by simp [hx])
  rw [List.takeWhile_append_of_pos hl, hnone, List.append_nil]

/-- **Dropping at both ends leaves the body.** -/
theorem Trimmed.dropWhile_eq {l before body after : List α} (h : Trimmed p l before body after) :
    ((l.dropWhile p).reverse.dropWhile p).reverse = body := by
  have hafter : ∀ x ∈ after.reverse, p x = true :=
    fun x hx => h.after x (List.mem_reverse.mp hx)
  have hlast : ∀ x ∈ body.reverse.head?, p x = false := by
    rw [List.head?_reverse]; exact h.last
  rw [h.eq, List.dropWhile_append_of_pos h.before]
  by_cases hbody : body = []
  · -- everything goes from the front, and nothing is left for the back
    rw [hbody, List.nil_append, List.dropWhile_eq_nil_iff.mpr h.after]
    rfl
  · have hhead : ∀ x ∈ (body ++ after).head?, p x = false := by
      intro x hx
      cases body with
      | nil => exact absurd rfl hbody
      | cons y body => exact h.head x hx
    rw [dropWhile_eq_self hhead, List.reverse_append, List.dropWhile_append_of_pos hafter,
      dropWhile_eq_self hlast, List.reverse_reverse]

theorem exists_trimmed_end (l : List α) :
    ∃ body after, l = body ++ after ∧ (∀ x ∈ after, p x = true)
      ∧ ∀ x ∈ body.getLast?, p x = false := by
  refine ⟨(l.reverse.dropWhile p).reverse, (l.reverse.takeWhile p).reverse, ?_, ?_, ?_⟩
  · rw [← List.reverse_append, List.takeWhile_append_dropWhile, List.reverse_reverse]
  · intro x hx
    exact List.mem_takeWhile_imp (List.mem_reverse.mp hx)
  · intro x hx
    have hx' : (l.reverse.dropWhile p).head? = some x := by rwa [List.getLast?_reverse] at hx
    have hnot := List.head?_dropWhile_not p l.reverse
    rwa [hx'] at hnot

/-- **Every list can be trimmed.** -/
theorem exists_trimmed (p : α → Bool) (l : List α) :
    ∃ before body after, Trimmed p l before body after := by
  obtain ⟨body, after, hrest, hafter, hlast⟩ := exists_trimmed_end (p := p) (l.dropWhile p)
  refine ⟨l.takeWhile p, body, after, ?_, ?_, hafter, ?_, hlast⟩
  · rw [← hrest, List.takeWhile_append_dropWhile]
  · exact fun _ hx => List.mem_takeWhile_imp hx
  · -- the body starts where the dropping from the front has stopped
    intro x hx
    have hnot := List.head?_dropWhile_not p l
    rwa [hrest, List.head?_append, Option.mem_def.mp hx] at hnot

/-- A list is trimmed in one way, except that where nothing is left the ends may be cut anywhere. -/
theorem Trimmed.unique {l before body after before' body' after' : List α}
    (h : Trimmed p l before body after) (h' : Trimmed p l before' body' after') :
    body = body' ∧ (body ≠ [] → before = before') := by
  have hsame : body = body' := by rw [← h.dropWhile_eq, h'.dropWhile_eq]
  refine ⟨hsame, fun hbody => ?_⟩
  -- what was dropped in front is what would be taken from there
  have htake : ∀ {before after : List α}, Trimmed p l before body after →
      l.takeWhile p = before := by
    intro before after h
    rw [h.eq]
    refine takeWhile_append_eq h.before ?_
    intro x hx
    rw [List.head?_append, List.head?_eq_some_head hbody] at hx
    exact h.head x ((List.head?_eq_some_head hbody).trans hx)
  subst hsame
  exact (htake h).symm.trans (htake h')

/-- What is dropped may go on at the end. -/
theorem Trimmed.append_after {l before body after : List α} (h : Trimmed p l before body after)
    {rest : List α} (hrest : ∀ x ∈ rest, p x = true) :
    Trimmed p (l ++ rest) before body (after ++ rest) where
  eq := by
    rw [h.eq]
    simp only [List.append_assoc]
  before := h.before
  after := by
    intro x hx
    rcases List.mem_append.mp hx with hx | hx
    · exact h.after x hx
    · exact hrest x hx
  head := h.head
  last := h.last

theorem Trimmed.body_ne_nil {l before body after : List α} (h : Trimmed p l before body after)
    (hfull : ∃ x ∈ l, p x = false) : body ≠ [] := by
  intro hnil
  obtain ⟨x, hx, hno⟩ := hfull
  rw [h.eq, hnil, List.nil_append] at hx
  have hyes : p x = true := by
    rcases List.mem_append.mp hx with hmem | hmem
    · exact h.before x hmem
    · exact h.after x hmem
  rw [hno] at hyes
  exact Bool.noConfusion hyes

theorem Trimmed.reverse {l before body after : List α} (h : Trimmed p l before body after) :
    Trimmed p l.reverse after.reverse body.reverse before.reverse where
  eq := by rw [h.eq, List.reverse_append, List.reverse_append, List.append_assoc]
  before := fun x hx => h.after x (List.mem_reverse.mp hx)
  after := fun x hx => h.before x (List.mem_reverse.mp hx)
  head := by
    rw [List.head?_reverse]
    exact h.last
  last := by
    rw [List.getLast?_reverse]
    exact h.head

/-- Something is dropped in front exactly if the first item satisfies the test. -/
theorem Trimmed.before_ne_nil_iff {l before body after : List α}
    (h : Trimmed p l before body after) (hbody : body ≠ []) :
    before ≠ [] ↔ ∃ x ∈ l.head?, p x = true := by
  rw [h.eq]
  constructor
  · intro hne
    refine ⟨before.head hne, ?_, h.before _ (List.head_mem hne)⟩
    rw [List.head?_append, List.head?_eq_some_head hne]
    rfl
  · rintro ⟨x, hx, hyes⟩ hnil
    have hfirst := List.head?_eq_some_head hbody
    have hno := h.head _ hfirst
    rw [hnil, List.nil_append, List.head?_append, hfirst] at hx
    rw [Option.some.inj hx, hyes] at hno
    exact Bool.noConfusion hno

theorem Trimmed.after_ne_nil_iff {l before body after : List α} (h : Trimmed p l before body after)
    (hbody : body ≠ []) : after ≠ [] ↔ ∃ x ∈ l.getLast?, p x = true := by
  have hfront := h.reverse.before_ne_nil_iff (mt List.reverse_eq_nil_iff.mp hbody)
  rwa [List.head?_reverse, ne_eq, List.reverse_eq_nil_iff] at hfront

/-- Two lists in a row are trimmed at their far ends. What was dropped between their bodies
stays. -/
theorem Trimmed.append {l l' before body after before' body' after' : List α}
    (h : Trimmed p l before body after) (h' : Trimmed p l' before' body' after')
    (hbody : body ≠ []) (hbody' : body' ≠ []) :
    Trimmed p (l ++ l') before (body ++ ((after ++ before') ++ body')) after' where
  eq := by
    rw [h.eq, h'.eq]
    simp only [List.append_assoc]
  before := h.before
  after := h'.after
  head := by
    intro x hx
    cases body with
    | nil => exact absurd rfl hbody
    | cons y body => exact h.head x hx
  last := by
    intro x hx
    -- the last item is that of the second body, which is not empty
    cases hlast : body'.getLast? with
    | none => exact absurd (List.getLast?_eq_none_iff.mp hlast) hbody'
    | some y =>
        rw [List.getLast?_append, List.getLast?_append, hlast] at hx
        exact h'.last x (hlast.trans hx)

/-- A list may be trimmed by what its items are mapped to. -/
theorem Trimmed.map {β : Type} {q : β → Bool} {g : α → β} (hq : ∀ x, q (g x) = p x)
    {l before body after : List α} (h : Trimmed p l before body after) :
    Trimmed q (l.map g) (before.map g) (body.map g) (after.map g) where
  eq := by rw [h.eq, List.map_append, List.map_append]
  before := by
    intro y hy
    obtain ⟨x, hx, rfl⟩ := List.mem_map.mp hy
    rw [hq, h.before x hx]
  after := by
    intro y hy
    obtain ⟨x, hx, rfl⟩ := List.mem_map.mp hy
    rw [hq, h.after x hx]
  head := by
    intro y hy
    rw [List.head?_map] at hy
    obtain ⟨x, hx, rfl⟩ := Option.map_eq_some_iff.mp hy
    rw [hq, h.head x hx]
  last := by
    intro y hy
    rw [List.getLast?_map] at hy
    obtain ⟨x, hx, rfl⟩ := Option.map_eq_some_iff.mp hy
    rw [hq, h.last x hx]

/-- Numbering the items first makes no difference. -/
theorem Trimmed.zipIdx {l before body after : List α} (h : Trimmed p l before body after)
    (n : Nat) : Trimmed (fun x : α × Nat => p x.1) (l.zipIdx n) (before.zipIdx n)
      (body.zipIdx (n + before.length)) (after.zipIdx (n + before.length + body.length)) where
  eq := by rw [h.eq, List.zipIdx_append, List.zipIdx_append]
  before := fun _ hx => h.before _ (List.fst_mem_of_mem_zipIdx hx)
  after := fun _ hx => h.after _ (List.fst_mem_of_mem_zipIdx hx)
  head := by
    intro x hx
    rw [List.head?_zipIdx] at hx
    obtain ⟨y, hy, rfl⟩ := Option.map_eq_some_iff.mp hx
    exact h.head y hy
  last := by
    intro x hx
    rw [List.getLast?_zipIdx] at hx
    obtain ⟨y, hy, rfl⟩ := Option.map_eq_some_iff.mp hx
    exact h.last y hy

end DecoderKit
