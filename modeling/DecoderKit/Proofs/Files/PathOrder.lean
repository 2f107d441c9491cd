import Mathlib.Data.List.Basic
import DecoderKit.Files.Tree

/-!
# The order of paths in one directory

Paths are ordered by their steps, and steps are not bytes: repeated slashes and dots have
none. Two paths in the same directory, however that is spelled, have the steps of the
directory in common and end in a step each for their names (`components_join`). So their
names decide, and since the names stand behind the same bytes, the order is that of the
bytes of the whole paths as well.
-/

namespace DecoderKit

/-! ## Byte strings -/

theorem compare_eq_lt_iff {l l' : Bytes} : compare l l' = .lt ↔ l < l' := by
  show List.compareLex compare l l' = .lt ↔ l < l'
  induction l generalizing l' with
  | nil => cases l' <;> simp [List.compareLex]
  | cons b l ih =>
      cases l' with
      | nil => simp [List.compareLex]
      | cons b' l' =>
          rw [List.compareLex_cons_cons, Ordering.then_eq_lt, Std.compare_eq_lt,
            Std.compare_eq_iff_eq, ih, List.cons_lt_cons_iff]

theorem isLE_compare_iff {l l' : Bytes} : (compare l l').isLE = true ↔ l ≤ l' := by
  rw [← List.not_lt, ← compare_eq_lt_iff, Std.OrientedOrd.eq_swap (a := l') (b := l)]
  cases compare l l' <;> simp

theorem append_lt_append_iff {front l l' : Bytes} : front ++ l < front ++ l' ↔ l < l' := by
  induction front with
  | nil => rfl
  | cons b front ih =>
      rw [List.cons_append, List.cons_append, List.cons_lt_cons_iff, ih]
      constructor
      · intro h
        rcases h with h | ⟨_, h⟩
        · exact absurd h (UInt8.lt_irrefl b)
        · exact h
      · exact fun h => Or.inr ⟨rfl, h⟩

namespace Path

/-! ## The steps of a path in a directory -/

theorem components_eq (b : Bytes) : components ⟨b⟩
    = (if b.head? = some slash then [.root]
        else if (b.splitOn slash).head? = some dot then [.here] else [])
      ++ (b.splitOn slash).filterMap component? := by
  unfold components
  -- the beginning is looked at before the parts are
  by_cases hroot : b.head? = some slash
  · simp only [if_pos hroot, List.singleton_append]
  by_cases hhere : (b.splitOn slash).head? = some dot
  · simp only [if_neg hroot, if_pos hhere, List.singleton_append]
  · simp only [if_neg hroot, if_neg hhere, List.nil_append]

/-- What stands behind a slash adds its own steps. -/
theorem components_append_slash (b rest : Bytes) : components ⟨b ++ slash :: rest⟩
    = components ⟨b ++ [slash]⟩ ++ (rest.splitOn slash).filterMap component? := by
  -- neither beginning is decided behind the first slash
  have hhead : (b ++ slash :: rest).head? = (b ++ [slash]).head? := by
    cases b <;> rfl
  have hparts : ((b ++ slash :: rest).splitOn slash).head?
      = ((b ++ [slash]).splitOn slash).head? := by
    rw [List.splitOn_append_cons_self, List.splitOn_append_cons_self,
      List.head?_append_of_ne_nil _ (List.splitOn_ne_nil slash b),
      List.head?_append_of_ne_nil _ (List.splitOn_ne_nil slash b)]
  rw [components_eq, components_eq, hhead, hparts, List.splitOn_append_cons_self,
    List.splitOn_append_cons_self, List.filterMap_append, List.filterMap_append, List.splitOn_nil,
    List.append_assoc, List.append_assoc]
  rfl

/-- A slash at the end of a path is no step, unless it is all of the path. -/
theorem components_concat_slash {b : Bytes} (h : b ≠ []) :
    components ⟨b ++ [slash]⟩ = components ⟨b⟩ := by
  have hhead : (b ++ [slash]).head? = b.head? := List.head?_append_of_ne_nil _ h
  have hparts : ((b ++ [slash]).splitOn slash).head? = (b.splitOn slash).head? := by
    rw [List.splitOn_append_cons_self,
      List.head?_append_of_ne_nil _ (List.splitOn_ne_nil slash b)]
  rw [components_eq, components_eq, hhead, hparts, List.splitOn_append_cons_self,
    List.filterMap_append, List.splitOn_nil]
  exact congrArg _ (List.append_nil _)

/-- **The steps of an entry are those of its directory and its name.** -/
theorem components_join (directory : Path) {name : Name} (h : IsEntryName name) :
    (directory.join name).components = directory.components ++ [.name name] := by
  have hname : name.splitOn slash = [name] := List.splitOn_eq_singleton h.noSlash
  have hstep : [name].filterMap component? = [.name name] := by
    rw [List.filterMap_cons_some (b := .name name), List.filterMap_nil]
    rw [component?, if_neg (not_or.mpr ⟨h.nonempty, h.notDot⟩), if_neg h.notDotDot]
  obtain ⟨b⟩ := directory
  by_cases hempty : b = []
  · -- the name is all of the path, and looks like neither beginning
    subst hempty
    have hroot : name.head? ≠ some slash := by
      intro hhead
      exact h.noSlash (List.mem_of_mem_head? hhead)
    have hhere : [name].head? ≠ some dot := by
      intro hhead
      exact h.notDot (Option.some.inj hhead)
    rw [join, if_pos (Or.inl rfl), List.nil_append, components_eq, hname, if_neg hroot,
      if_neg hhere, hstep]
    rfl
  -- with a slash at its end or given one, the directory is what stands in front of it
  by_cases hslash : b.getLast? = some slash
  · obtain ⟨front, rfl⟩ := List.getLast?_eq_some_iff.mp hslash
    rw [join, if_pos (Or.inr hslash), List.append_assoc, List.singleton_append,
      components_append_slash, hname, hstep]
  · rw [join, if_neg (not_or.mpr ⟨hempty, hslash⟩), components_append_slash,
      components_concat_slash hempty, hname, hstep]

/-! ## The order -/

theorem compare_append_self {steps : List Component} {c d : Component} :
    compare (steps ++ [c]) (steps ++ [d]) = compare c d := by
  have hself : ∀ s : Component, compare s s = .eq := by
    intro s
    cases s with
    | name n =>
        show (compare n n).then .eq = .eq
        rw [Std.ReflOrd.compare_self]
        rfl
    | _ => rfl
  show List.compareLex compare (steps ++ [c]) (steps ++ [d]) = compare c d
  -- equal steps in front decide nothing
  induction steps with
  | nil =>
      rw [List.nil_append, List.nil_append, List.compareLex_cons_cons]
      show (compare c d).then .eq = compare c d
      cases compare c d <;> rfl
  | cons s steps ih =>
      rw [List.cons_append, List.cons_append, List.compareLex_cons_cons, hself s, ih]
      rfl

/-- **Two entries of a directory are in the order of their names.** -/
theorem isNoLater_join (directory : Path) {m n : Name} (hm : IsEntryName m) (hn : IsEntryName n) :
    isNoLater (directory.join m) (directory.join n) = true ↔ m ≤ n := by
  have hnames : compare (Component.name m) (Component.name n) = compare m n := by
    show (compare m n).then .eq = compare m n
    cases compare m n <;> rfl
  rw [isNoLater, components_join directory hm, components_join directory hn, compare_append_self,
    hnames, isLE_compare_iff]

/-- The bytes of an entry's path start in the same way for all entries. -/
theorem exists_bytes_join (directory : Path) :
    ∃ front : Bytes, ∀ name, (directory.join name).bytes = front ++ name := by
  by_cases h : directory.bytes = [] ∨ directory.bytes.getLast? = some slash
  · refine ⟨directory.bytes, fun name => ?_⟩
    rw [join, if_pos h]
  · refine ⟨directory.bytes ++ [slash], fun name => ?_⟩
    rw [join, if_neg h, List.append_assoc, List.singleton_append]

theorem bytes_join_lt_iff (directory : Path) {m n : Name} :
    (directory.join m).bytes < (directory.join n).bytes ↔ m < n := by
  obtain ⟨front, hfront⟩ := exists_bytes_join directory
  rw [hfront, hfront, append_lt_append_iff]

theorem join_injective (directory : Path) {m n : Name}
    (h : directory.join m = directory.join n) : m = n := by
  obtain ⟨front, hfront⟩ := exists_bytes_join directory
  have hbytes := congrArg Path.bytes h
  rw [hfront, hfront] at hbytes
  exact List.append_cancel_left hbytes

end Path

end DecoderKit
