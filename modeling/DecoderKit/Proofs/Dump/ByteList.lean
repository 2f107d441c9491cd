import DecoderKit.Dump.ByteList
import DecoderKit.Proofs.Text.Hexadecimal
import DecoderKit.Proofs.Text.Pieces
import DecoderKit.Proofs.Trimmed

/-!
# Which texts are byte lists, and which item spoils the others

The reader trims a text, drops a bracket on each side, cuts what is left into items and
reads them from the left. Here this is said without an order of events. `Encloses` is
the text around the list: blanks and at most one bracket on each side, none of which
says anything about the other side. `Spaced` is the list between its separators. And
`IsByte` is the grammar of an item.

A text has one list and the list has its items in one way (`items_eq_iff`), so reading
comes down to the items: either all of them are bytes, or there is a first that is none
(`readList_eq_iff`). Its number counts items, and what stands between two separators in
a row is not one.
-/

namespace DecoderKit.Dump

open Numeral (IsDecimal IsHexadecimal)

/-! ## The list in a text -/

/-- The text is this list with blanks around it, and with at most one bracket on each side of
the list. A bracket on the outside is always one of those. -/
def Encloses (t list : Text) : Prop :=
  ∃ before core after opening closing : Text,
    Trimmed Text.isBlank t before core after ∧ core = opening ++ (list ++ closing)
      ∧ (opening = ['['] ∨ opening = [] ∧ core.head? ≠ some '[')
      ∧ (closing = [']'] ∨ closing = [] ∧ core.getLast? ≠ some ']')

theorem dropOpening_eq_self {bracket : Char} {t : Text} (h : t.head? ≠ some bracket) :
    dropOpening bracket t = t := by
  cases t with
  | nil => rfl
  | cons c rest =>
      have hc : c ≠ bracket := fun hc => h (by rw [hc]; rfl)
      rw [dropOpening, if_neg hc]

theorem dropOpening_cons (bracket : Char) (t : Text) : dropOpening bracket (bracket :: t) = t := by
  rw [dropOpening, if_pos rfl]

theorem dropClosing_eq_self {bracket : Char} {t : Text} (h : t.getLast? ≠ some bracket) :
    dropClosing bracket t = t := by
  rw [dropClosing, dropOpening_eq_self (by rwa [List.head?_reverse]), List.reverse_reverse]

theorem dropClosing_append (bracket : Char) (t : Text) :
    dropClosing bracket (t ++ [bracket]) = t := by
  rw [dropClosing, List.reverse_append, List.reverse_singleton, List.singleton_append,
    dropOpening_cons, List.reverse_reverse]

/-- The list in a text is what is left of it. -/
theorem Encloses.eq {t list : Text} (h : Encloses t list) :
    dropClosing ']' (dropOpening '[' (Text.trim t)) = list := by
  obtain ⟨before, core, after, opening, closing, htrim, hcore, hopening, hclosing⟩ := h
  have hopened : dropOpening '[' core = list ++ closing := by
    -- the bracket is there, or none is there to drop
    rcases hopening with ho | ⟨ho, hhead⟩
    · rw [hcore, ho]
      exact dropOpening_cons '[' (list ++ closing)
    · rw [dropOpening_eq_self hhead, hcore, ho]
      rfl
  rw [Text.trim, Text.trimEnd, Text.trimStart, htrim.dropWhile_eq, hopened]
  rcases hclosing with hc | ⟨hc, hlast⟩
  · rw [hc, dropClosing_append]
  · -- what ends the list ends the text, unless the list is empty
    rw [hc, List.append_nil]
    refine dropClosing_eq_self fun hend => hlast ?_
    rw [hcore, hc, List.append_nil, List.getLast?_append, hend]
    rfl

/-- Every text has a list in it. -/
theorem exists_encloses (t : Text) : ∃ list, Encloses t list := by
  obtain ⟨before, core, after, htrim⟩ := exists_trimmed Text.isBlank t
  have hopening : ∃ opening rest, core = opening ++ rest
      ∧ (opening = ['['] ∨ opening = [] ∧ core.head? ≠ some '[') := by
    by_cases hhead : core.head? = some '['
    · obtain ⟨rest, hcore⟩ := List.head?_eq_some_iff.mp hhead
      exact ⟨['['], rest, hcore, Or.inl rfl⟩
    · exact ⟨[], core, rfl, Or.inr ⟨rfl, hhead⟩⟩
  obtain ⟨opening, rest, hcore, hopening⟩ := hopening
  by_cases hlast : rest.getLast? = some ']'
  · obtain ⟨list, hrest⟩ := List.getLast?_eq_some_iff.mp hlast
    exact ⟨list, before, core, after, opening, [']'], htrim, by rw [hcore, hrest], hopening,
      Or.inl rfl⟩
  · refine ⟨rest, before, core, after, opening, [], htrim, by rw [hcore, List.append_nil], hopening,
      Or.inr ⟨rfl, fun hend => hlast ?_⟩⟩
    -- the opening bracket is not the closing one
    rw [hcore, List.getLast?_append] at hend
    cases hrest : rest.getLast? with
    | some c => rw [hrest] at hend; exact hend
    | none =>
        rw [hrest] at hend
        rcases hopening with ho | ⟨ho, _⟩
        · rw [ho] at hend; exact absurd hend (by decide)
        · rw [ho] at hend; exact absurd hend (by decide)

/-- **The items of a text are those between the separators of its list.** -/
theorem items_eq_iff {t : Text} {tokens : List Text} :
    items t = tokens ↔ ∃ list, Encloses t list ∧ Spaced isSeparator list tokens := by
  refine ⟨fun h => ?_, fun h => ?_⟩
  · obtain ⟨list, hlist⟩ := exists_encloses t
    rw [items, hlist.eq] at h
    exact ⟨list, hlist, piecesBetween_eq_iff.mp h⟩
  · obtain ⟨list, hlist, hspaced⟩ := h
    rw [items, hlist.eq]
    exact piecesBetween_eq_iff.mpr hspaced

/-! ## One item -/

/-- The item is a numeral with this value: hexadecimal behind its marker, decimal without. -/
inductive IsItem : Text → Nat → Prop where
  | hex {marker : Char} {digits : Text} {n : Nat} : marker = 'x' ∨ marker = 'X' →
      IsHexadecimal digits n → IsItem ('0' :: marker :: digits) n
  | decimal {t : Text} {n : Nat} : IsDecimal t n → IsItem t n

/-- The item is a numeral of this byte. -/
def IsByte (item : Text) (b : UInt8) : Prop := IsItem item b.toNat

/-- No decimal numeral has a letter in second place. -/
theorem not_isDecimal_of_letter {first second : Char} {rest : Text} {n : Nat}
    (h : second.isDigit = false) : ¬ IsDecimal (first :: second :: rest) n := by
  have hno : ∀ {t : Text}, second ∈ t → ¬ Numeral.IsDigits t n := by
    intro t hmem hdigits
    have hdigit := hdigits.digits second hmem
    rw [h] at hdigit
    exact Bool.noConfusion hdigit
  intro hdec
  -- behind a sign or at the start, digits stand up to the end
  cases hdec with
  | bare hdigits => exact hno (by simp) hdigits
  | signed hdigits => exact hno (by simp) hdigits

theorem isItem_marked_iff {marker : Char} (hm : marker = 'x' ∨ marker = 'X') {digits : Text}
    {n : Nat} : IsItem ('0' :: marker :: digits) n ↔ IsHexadecimal digits n := by
  have hletter : marker.isDigit = false := by rcases hm with rfl | rfl <;> rfl
  refine ⟨fun h => ?_, IsItem.hex hm⟩
  cases h with
  | hex _ h => exact h
  | decimal h => exact absurd h (not_isDecimal_of_letter hletter)

theorem isItem_unmarked_iff {t : Text}
    (hno : ∀ marker digits, t = '0' :: marker :: digits → ¬ (marker = 'x' ∨ marker = 'X'))
    {n : Nat} : IsItem t n ↔ IsDecimal t n := by
  refine ⟨fun h => ?_, IsItem.decimal⟩
  cases h with
  | hex hm _ => exact absurd hm (hno _ _ rfl)
  | decimal h => exact h

theorem itemNumber_eq_ok_iff {item : Text} {n : Nat} :
    itemNumber item = .ok n ↔ IsItem item n ∧ n ≤ 255 := by
  unfold itemNumber
  split
  · rw [isItem_marked_iff (Or.inl rfl), Numeral.read_sixteen_eq_ok_iff]
  · rw [isItem_marked_iff (Or.inr rfl), Numeral.read_sixteen_eq_ok_iff]
  · -- neither marker is there
    rename_i hx hX
    rw [Numeral.read_ten_eq_ok_iff, isItem_unmarked_iff]
    rintro marker digits hitem (rfl | rfl)
    · exact hx digits hitem
    · exact hX digits hitem

/-- **An item is accepted when it is a numeral of a byte, with that byte.** -/
theorem readItem?_eq_some_iff {item : Text} {b : UInt8} :
    readItem? item = some b ↔ IsByte item b := by
  have hle : b.toNat ≤ 255 := Nat.le_of_lt_succ b.toNat_lt
  rw [IsByte, readItem?]
  refine ⟨fun h => ?_, fun h => ?_⟩
  · split at h
    · -- the bound of the numeral is that of a byte, so nothing is cut off
      rename_i n hn
      obtain ⟨hitem, hbound⟩ := itemNumber_eq_ok_iff.mp hn
      have hlt : n < UInt8.size := Nat.lt_succ_of_le hbound
      rw [← Option.some.inj h, UInt8.toNat_ofNat_of_lt' hlt]
      exact hitem
    · exact absurd h (by simp)
  · rw [itemNumber_eq_ok_iff.mpr ⟨h, hle⟩]
    exact congrArg some UInt8.ofNat_toNat

/-! ## All items -/

/-- Reads a numbered item, with the fault that names it. -/
def readNumbered (item : Text × Nat) : Except Fault UInt8 :=
  match readItem? item.1 with
  | none => .error (.malformedByte item.2 item.1)
  | some b => .ok b

theorem readNumbered_eq_ok_iff {item : Text × Nat} {b : UInt8} :
    readNumbered item = .ok b ↔ IsByte item.1 b := by
  rw [← readItem?_eq_some_iff, readNumbered]
  cases readItem? item.1 <;> simp

theorem readNumbered_eq_error_iff {item : Text × Nat} {fault : Fault} :
    readNumbered item = .error fault
      ↔ (¬ ∃ b, IsByte item.1 b) ∧ fault = .malformedByte item.2 item.1 := by
  simp only [← readItem?_eq_some_iff]
  rw [readNumbered]
  cases readItem? item.1 with
  | none => simp [eq_comm]
  | some b => simp

/-- Reading numbered items is a sweep over them. -/
theorem readItems_eq_mapM (l : List (Text × Nat)) : readItems l = l.mapM readNumbered := by
  induction l with
  | nil => rfl
  | cons item l ih =>
      obtain ⟨item, index⟩ := item
      rw [readItems]
      cases hitem : readItem? item with
      | none => exact (mapM_cons_error (f := readNumbered) (by rw [readNumbered, hitem])).symm
      | some b =>
          rw [ih]
          exact (mapM_cons_ok (f := readNumbered) (by rw [readNumbered, hitem]) l).symm

/-- **A text is read as bytes when the items of its list are the numerals of these bytes, and
otherwise the first item that is none is reported**, with the number of items before it. -/
theorem readList_eq_iff (t : Text) :
    (∀ bytes, readList t = .ok bytes ↔ ∃ list tokens, Encloses t list
        ∧ Spaced isSeparator list tokens ∧ List.Forall₂ IsByte tokens bytes)
      ∧ ∀ fault, readList t = .error fault ↔ ∃ list before token after, Encloses t list
        ∧ Spaced isSeparator list (before ++ token :: after)
        ∧ (∀ item ∈ before, ∃ b, IsByte item b) ∧ (¬ ∃ b, IsByte token b)
        ∧ fault = .malformedByte before.length token := by
  refine ⟨fun bytes => ?_, fun fault => ?_⟩
  · rw [readList, readItems_eq_mapM, mapM_eq_ok_iff]
    simp only [readNumbered_eq_ok_iff]
    rw [forall₂_zipIdx_iff]
    refine ⟨fun h => ?_, fun h => ?_⟩
    · obtain ⟨list, hlist, hspaced⟩ := items_eq_iff.mp (rfl : items t = items t)
      exact ⟨list, _, hlist, hspaced, h⟩
    · obtain ⟨list, tokens, hlist, hspaced, hbytes⟩ := h
      rwa [items_eq_iff.mpr ⟨list, hlist, hspaced⟩]
  · rw [readList, readItems_eq_mapM, mapM_eq_error_iff]
    refine ⟨fun h => ?_, fun h => ?_⟩
    · -- the items before the one that is refused are as many as its number
      obtain ⟨before, ⟨token, index⟩, after, hsplit, hbefore, htoken⟩ := h
      obtain ⟨front, rear, hitems, hfront, hindex, _⟩ := zipIdx_eq_append_cons_iff.mp hsplit
      obtain ⟨hno, hfault⟩ := readNumbered_eq_error_iff.mp htoken
      obtain ⟨list, hlist, hspaced⟩ := items_eq_iff.mp hitems
      refine ⟨list, front, token, rear, hlist, hspaced, fun item hitem => ?_, hno, ?_⟩
      · rw [← List.zipIdx_map_fst 0 front, ← hfront] at hitem
        obtain ⟨x, hx, rfl⟩ := List.mem_map.mp hitem
        obtain ⟨b, hb⟩ := hbefore x hx
        exact ⟨b, readNumbered_eq_ok_iff.mp hb⟩
      · rw [hfault, hindex]
    · obtain ⟨list, front, token, rear, hlist, hspaced, hfront, hno, hfault⟩ := h
      have hsplit := zipIdx_eq_append_cons_iff.mpr
        ⟨front, rear, items_eq_iff.mpr ⟨list, hlist, hspaced⟩, rfl, rfl, rfl⟩
      refine ⟨_, _, _, hsplit, fun item hitem => ?_, readNumbered_eq_error_iff.mpr ⟨hno, hfault⟩⟩
      obtain ⟨b, hb⟩ := hfront item.1 (List.fst_mem_of_mem_zipIdx hitem)
      exact ⟨b, readNumbered_eq_ok_iff.mpr hb⟩

end DecoderKit.Dump
