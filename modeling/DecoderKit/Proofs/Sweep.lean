import Mathlib.Data.List.Forall2

/-!
# Going through a list up to the first fault

Every reader of this library goes through its input from the left and stops at the
first item that it refuses. Here such a sweep is `List.mapM` in `Except`, and the
two ways in which it ends are described once for all of them: it succeeds when every
item does, and it fails with the fault of the first item that does not.

What a sweep has read stands beside what it was read from, item by item, which is
`List.Forall₂`. Small facts find the one from the other, also where the items are
numbered.
-/

namespace DecoderKit

variable {α β ε : Type} {f : α → Except ε β}

theorem map_eq_error_iff {x : Except ε α} {g : α → β} {e : ε} :
    x.map g = .error e ↔ x = .error e := by
  cases x with
  | error e' =>
      exact ⟨fun h => congrArg _ (Except.error.inj h), fun h => congrArg _ (Except.error.inj h)⟩
  | ok a => exact ⟨fun h => absurd h (by simp [Except.map]), fun h => absurd h (by simp)⟩

theorem mapError_eq_ok_iff {ε' : Type} {x : Except ε α} {g : ε → ε'} {a : α} :
    x.mapError g = .ok a ↔ x = .ok a := by
  cases x with
  | error e => exact ⟨fun h => absurd h (by simp [Except.mapError]), fun h => absurd h (by simp)⟩
  | ok b => exact ⟨fun h => congrArg _ (Except.ok.inj h), fun h => congrArg _ (Except.ok.inj h)⟩

theorem mapError_eq_error_iff {ε' : Type} {x : Except ε α} {g : ε → ε'} {e' : ε'} :
    x.mapError g = .error e' ↔ ∃ e, x = .error e ∧ e' = g e := by
  cases x with
  | error e =>
      refine ⟨fun h => ⟨e, rfl, (Except.error.inj h).symm⟩, fun h => ?_⟩
      obtain ⟨_, he, rfl⟩ := h
      rw [Except.error.inj he]
      rfl
  | ok a =>
      refine ⟨fun h => absurd h (by simp [Except.mapError]), fun h => ?_⟩
      obtain ⟨_, he, _⟩ := h
      exact absurd he (by simp)

theorem mapM_cons_error {a : α} {l : List α} {e : ε} (h : f a = .error e) :
    (a :: l).mapM f = .error e := by
  rw [List.mapM_cons, h]; rfl

theorem mapM_cons_ok {a : α} {b : β} (h : f a = .ok b) (l : List α) :
    (a :: l).mapM f = (l.mapM f).map (b :: ·) := by
  rw [List.mapM_cons, h]
  cases l.mapM f <;> rfl

/-- A sweep succeeds when every item does, with their results in order. -/
theorem mapM_eq_ok_iff {l : List α} {bs : List β} :
    l.mapM f = .ok bs ↔ List.Forall₂ (fun a b => f a = .ok b) l bs := by
  -- the first item decides whether the sweep goes on, and the rest is a sweep again
  induction l generalizing bs with
  | nil =>
      rw [List.mapM_nil, List.forall₂_nil_left_iff]
      exact ⟨fun h => (Except.ok.inj h).symm, fun h => by rw [h]; rfl⟩
  | cons a l ih =>
      cases ha : f a with
      | error e =>
          rw [mapM_cons_error ha]
          refine ⟨fun h => absurd h (by simp), fun h => ?_⟩
          cases h with
          | cons hab _ => exact absurd (ha.symm.trans hab) (by simp)
      | ok b =>
          rw [mapM_cons_ok ha]
          refine ⟨fun h => ?_, fun h => ?_⟩
          · cases hl : l.mapM f with
            | error e => rw [hl] at h; exact absurd h (by simp [Except.map])
            | ok bs' =>
                rw [hl] at h
                rw [← Except.ok.inj h]
                exact List.Forall₂.cons ha (ih.mp hl)
          · cases h with
            | cons hab hrest =>
                have hb : b = _ := Except.ok.inj (ha.symm.trans hab)
                rw [ih.mpr hrest, ← hb]
                rfl

/-- A sweep fails with the fault of the first item that has one. -/
theorem mapM_eq_error_iff {l : List α} {e : ε} :
    l.mapM f = .error e ↔ ∃ before a after, l = before ++ a :: after
      ∧ (∀ x ∈ before, ∃ b, f x = .ok b) ∧ f a = .error e := by
  induction l with
  | nil =>
      rw [List.mapM_nil]
      refine ⟨fun h => absurd h (by simp [pure, Except.pure]), fun h => ?_⟩
      obtain ⟨before, a, after, hsplit, _⟩ := h
      exact absurd hsplit (by simp)
  | cons a l ih =>
      cases ha : f a with
      | error e' =>
          rw [mapM_cons_error ha]
          refine ⟨fun h => ⟨[], a, l, rfl, by simp, by rw [ha, Except.error.inj h]⟩, fun h => ?_⟩
          obtain ⟨before, x, after, hsplit, hbefore, hx⟩ := h
          cases before with
          | nil =>
              rw [← (List.cons.inj hsplit).1, ha] at hx
              rw [Except.error.inj hx]
          | cons y before =>
              -- the sweep stops at `a`, so nothing goes before the fault
              obtain ⟨b, hb⟩ := hbefore y (List.mem_cons_self ..)
              rw [← (List.cons.inj hsplit).1, ha] at hb
              exact absurd hb (by simp)
      | ok b =>
          rw [mapM_cons_ok ha]
          refine ⟨fun h => ?_, fun h => ?_⟩
          · cases hl : l.mapM f with
            | ok bs => rw [hl] at h; exact absurd h (by simp [Except.map])
            | error e' =>
                rw [hl] at h
                have hrest : l.mapM f = .error e := hl.trans (congrArg _ (Except.error.inj h))
                obtain ⟨before, x, after, hsplit, hbefore, hx⟩ := ih.mp hrest
                exact ⟨a :: before, x, after, by rw [hsplit]; rfl,
                  List.forall_mem_cons.mpr ⟨⟨b, ha⟩, hbefore⟩, hx⟩
          · obtain ⟨before, x, after, hsplit, hbefore, hx⟩ := h
            cases before with
            | nil =>
                -- the sweep goes past `a`, so the fault is not there
                rw [← (List.cons.inj hsplit).1, ha] at hx
                exact absurd hx (by simp)
            | cons y before =>
                have hrest : ∀ z ∈ before, ∃ b, f z = .ok b :=
                  fun z hz => hbefore z (List.mem_cons_of_mem _ hz)
                rw [ih.mpr ⟨before, x, after, (List.cons.inj hsplit).2, hrest, hx⟩]
                rfl

/-- What follows a fault is not looked at. -/
theorem mapM_append_error {l : List α} {e : ε} (h : l.mapM f = .error e) (l' : List α) :
    (l ++ l').mapM f = .error e := by
  rw [List.mapM_append, h]
  rfl

/-- A sweep goes on behind a list that it got through. -/
theorem mapM_append_ok {l : List α} {bs : List β} (h : l.mapM f = .ok bs) (l' : List α) :
    (l ++ l').mapM f = (l'.mapM f).map (bs ++ ·) := by
  rw [List.mapM_append, h]
  cases l'.mapM f <;> rfl

/-- Items that are undone one by one are undone together. -/
theorem mapM_map_eq_some {make : α → β} {undo : β → Option α}
    (h : ∀ a, undo (make a) = some a) (l : List α) : (l.map make).mapM undo = some l := by
  induction l with
  | nil => rfl
  | cons a l ih =>
      rw [List.map_cons, List.mapM_cons, h, ih]
      rfl

/-! ## Items and what was read from them -/

variable {R : α → β → Prop}

theorem exists_related {l : List α} {bs : List β} (h : List.Forall₂ R l bs) :
    ∀ a ∈ l, ∃ b ∈ bs, R a b := by
  induction h with
  | nil => intro a ha; exact absurd ha (by simp)
  | cons hab _ ih =>
      intro a ha
      rcases List.mem_cons.mp ha with rfl | ha
      · exact ⟨_, List.mem_cons_self .., hab⟩
      · obtain ⟨b, hb, hab'⟩ := ih a ha
        exact ⟨b, List.mem_cons_of_mem _ hb, hab'⟩

/-- What stands beside an item stands at the same place. -/
theorem exists_split {l : List α} {front rear : List β} {b : β}
    (h : List.Forall₂ R l (front ++ b :: rear)) : ∃ l₁ a l₂, l = l₁ ++ a :: l₂
      ∧ List.Forall₂ R l₁ front ∧ R a b := by
  -- item by item, what stands in front on the right has its part on the left
  induction front generalizing l with
  | nil =>
      cases h with
      | cons hab _ => exact ⟨[], _, _, rfl, .nil, hab⟩
  | cons b' front ih =>
      cases h with
      | cons hab hrest =>
          obtain ⟨l₁, a, l₂, hl, hfront, hb⟩ := ih hrest
          exact ⟨_ :: l₁, a, l₂, by rw [hl]; rfl, .cons hab hfront, hb⟩

/-- The numbers of the items have no part in what stands beside them. -/
theorem forall₂_zipIdx_iff {l : List α} {bs : List β} (n : Nat) :
    List.Forall₂ (fun a b => R a.1 b) (l.zipIdx n) bs ↔ List.Forall₂ R l bs := by
  induction l generalizing n bs with
  | nil => rw [List.zipIdx_nil, List.forall₂_nil_left_iff, List.forall₂_nil_left_iff]
  | cons a l ih =>
      rw [List.zipIdx_cons]
      refine ⟨fun h => ?_, fun h => ?_⟩
      · cases h with
        | cons hab hrest => exact .cons hab ((ih _).mp hrest)
      · cases h with
        | cons hab hrest => exact .cons hab ((ih _).mpr hrest)

/-- A numbered item has the number of items before it. -/
theorem zipIdx_eq_append_cons_iff {l : List α} {before after : List (α × Nat)} {a : α}
    {i : Nat} : l.zipIdx = before ++ (a, i) :: after ↔ ∃ front rear,
      l = front ++ a :: rear ∧ before = front.zipIdx ∧ i = front.length
        ∧ after = rear.zipIdx (front.length + 1) := by
  rw [List.zipIdx_eq_append_iff]
  refine ⟨fun h => ?_, fun h => ?_⟩
  · obtain ⟨front, l₂, hl, hbefore, hrest⟩ := h
    obtain ⟨a', rear, hl₂, hai, hafter⟩ := List.zipIdx_eq_cons_iff.mp hrest.symm
    obtain ⟨ha, hi⟩ := Prod.mk.inj hai
    rw [Nat.zero_add] at hi hafter
    exact ⟨front, rear, by rw [hl, hl₂, ha], hbefore, hi, hafter⟩
  · obtain ⟨front, rear, hl, hbefore, hi, hafter⟩ := h
    refine ⟨front, a :: rear, hl, hbefore, ?_⟩
    rw [List.zipIdx_cons, Nat.zero_add, hi, hafter]

end DecoderKit
