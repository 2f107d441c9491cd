import DecoderKit.Proofs.Dump.ByteList
import DecoderKit.Proofs.LaterFault

/-!
# Byte lists inside others

Two dumps of one stretch of memory may differ in how they were copied: with the brackets or
without, with one bracket that was caught and one that was missed, in one piece or in two. A
list that has no bracket in it is read alike in each of these cases.

Around such a list at most one bracket on each side and any blanks are taken off again. Trimming
may take too much, since it also takes blanks that belong to the list, but blanks at its ends do
not count (`items_of_wraps`). So the items of the list are what stands between its separators,
and those of two lists with separators between them are the items of the first and then those of
the second. They are read as two lists are that follow each other, where a fault in the second is
met later by the number of items of the first.
-/

namespace DecoderKit.Dump

open Text (isBlank trim trimStart trimEnd)

variable {bracket : Char} {a b s t opening closing : Text}

/-- There is no bracket in the text. -/
def BracketFree (t : Text) : Prop := '[' ∉ t ∧ ']' ∉ t

/-- The text is this list, with a bracket on one side, on both or on none, and with blanks inside
and outside of the brackets. -/
def Wraps (t list : Text) : Prop :=
  ∃ before opening inner inner' closing after : Text,
    t = before ++ ((opening ++ ((inner ++ (list ++ inner')) ++ closing)) ++ after)
      ∧ (opening = [] ∨ opening = ['[']) ∧ (closing = [] ∨ closing = [']'])
      ∧ (∀ c ∈ before, isBlank c = true) ∧ (∀ c ∈ inner, isBlank c = true)
      ∧ (∀ c ∈ inner', isBlank c = true) ∧ ∀ c ∈ after, isBlank c = true

theorem bracketFree_append : BracketFree (a ++ b) ↔ BracketFree a ∧ BracketFree b := by
  simp only [BracketFree, List.mem_append, not_or]
  exact and_and_and_comm

theorem bracketFree_of_separators (hs : ∀ c ∈ s, isSeparator c = true) : BracketFree s :=
  ⟨fun h => absurd (hs _ h) (by decide), fun h => absurd (hs _ h) (by decide)⟩

theorem isSeparator_of_blanks (hs : ∀ c ∈ s, isBlank c = true) : ∀ c ∈ s, isSeparator c = true := by
  intro c hmem
  rw [isSeparator, hs c hmem, Bool.or_true]

theorem piecesBetween_blanks {g g' : Text} (hg : ∀ c ∈ g, isBlank c = true)
    (hg' : ∀ c ∈ g', isBlank c = true) (t : Text) :
    piecesBetween isSeparator (g ++ (t ++ g')) = piecesBetween isSeparator t := by
  rw [piecesBetween_gap_append (isSeparator_of_blanks hg),
    piecesBetween_append_gap (isSeparator_of_blanks hg')]

/-! ## Taking off what is around a list -/

theorem trim_between {g g' : Text} (hg : ∀ c ∈ g, isBlank c = true)
    (hg' : ∀ c ∈ g', isBlank c = true) (t : Text) : trim (g ++ (t ++ g')) = trim t := by
  -- blanks behind the text are behind its body, and blanks in front are dropped at once
  obtain ⟨before, body, after, h⟩ := exists_trimmed isBlank t
  have hlonger := (h.append_after hg').dropWhile_eq
  rw [trim, trimEnd, trimStart, List.dropWhile_append_of_pos hg, hlonger]
  exact h.dropWhile_eq.symm

/-- Only blanks of the middle are trimmed, where there are none on the left and on the right. -/
theorem exists_trimStart (ho : ∀ c ∈ opening, isBlank c = false)
    (hc : ∀ c ∈ closing, isBlank c = false) (t : Text) : ∃ g rest, (∀ c ∈ g, isBlank c = true)
      ∧ t = g ++ rest ∧ trimStart (opening ++ (t ++ closing)) = opening ++ (rest ++ closing) := by
  cases opening with
  -- the blanks at the start are those of the middle, up to the closing side
  | nil =>
      refine ⟨t.takeWhile isBlank, trimStart t, ?_, ?_, ?_⟩
      · intro c hmem
        exact List.mem_takeWhile_imp hmem
      · exact List.takeWhile_append_dropWhile.symm
      · exact dropWhile_append_of_head? fun c hhead => hc c (List.mem_of_mem_head? hhead)
  -- a bracket stands first, so nothing is trimmed
  | cons bracket opening =>
      refine ⟨[], t, by simp, rfl, dropWhile_eq_self ?_⟩
      intro c hhead
      exact ho c (List.mem_of_mem_head? hhead)

theorem exists_trimEnd (ho : ∀ c ∈ opening, isBlank c = false)
    (hc : ∀ c ∈ closing, isBlank c = false) (t : Text) : ∃ rest g, (∀ c ∈ g, isBlank c = true)
      ∧ t = rest ++ g ∧ trimEnd (opening ++ (t ++ closing)) = opening ++ (rest ++ closing) := by
  have hc' : ∀ c ∈ closing.reverse, isBlank c = false := fun c h => hc c (List.mem_reverse.mp h)
  have ho' : ∀ c ∈ opening.reverse, isBlank c = false := fun c h => ho c (List.mem_reverse.mp h)
  -- backwards, the end is a start
  obtain ⟨g, rest, hg, ht, htrim⟩ := exists_trimStart hc' ho' t.reverse
  refine ⟨rest.reverse, g.reverse, fun c hmem => hg c (List.mem_reverse.mp hmem), ?_, ?_⟩
  · rw [← List.reverse_append, ← ht, List.reverse_reverse]
  · have hreverse : (opening ++ (t ++ closing)).reverse
        = closing.reverse ++ (t.reverse ++ opening.reverse) := by
      rw [List.reverse_append, List.reverse_append, List.append_assoc]
    rw [trimEnd, hreverse]
    change (trimStart _).reverse = _
    rw [htrim]
    simp only [List.reverse_append, List.reverse_reverse, List.append_assoc]

theorem exists_trim (ho : ∀ c ∈ opening, isBlank c = false)
    (hc : ∀ c ∈ closing, isBlank c = false) (t : Text) : ∃ g list g',
    (∀ c ∈ g, isBlank c = true) ∧ (∀ c ∈ g', isBlank c = true) ∧ t = g ++ (list ++ g')
      ∧ trim (opening ++ (t ++ closing)) = opening ++ (list ++ closing) := by
  obtain ⟨g, rest, hg, ht, hstart⟩ := exists_trimStart ho hc t
  obtain ⟨list, g', hg', hrest, hend⟩ := exists_trimEnd ho hc rest
  exact ⟨g, list, g', hg, hg', by rw [ht, hrest], by rw [trim, hstart, hend]⟩

theorem not_isBlank_of_mem (hbracket : isBlank bracket = false) (ht : t = [] ∨ t = [bracket]) :
    ∀ c ∈ t, isBlank c = false := by
  rcases ht with rfl | rfl
  · simp
  · simpa using hbracket

theorem dropOpening_append (ho : opening = [] ∨ opening = [bracket]) (ht : bracket ∉ t) :
    dropOpening bracket (opening ++ t) = t := by
  rcases ho with rfl | rfl
  · refine dropOpening_eq_self ?_
    intro hhead
    exact ht (List.mem_of_mem_head? hhead)
  · exact dropOpening_cons bracket t

theorem dropClosing_append_of_not_mem (hc : closing = [] ∨ closing = [bracket]) (ht : bracket ∉ t) :
    dropClosing bracket (t ++ closing) = t := by
  rcases hc with rfl | rfl
  · rw [List.append_nil]
    refine dropClosing_eq_self ?_
    intro hlast
    exact ht (List.mem_of_getLast? hlast)
  · exact dropClosing_append bracket t

/-- **The items of a list are found through brackets and blanks**, as they are in the list alone. -/
theorem items_of_wraps (hb : BracketFree b) (h : Wraps t b) :
    items t = piecesBetween isSeparator b := by
  obtain ⟨before, opening, inner, inner', closing, after, rfl, ho, hc, hbefore, hinner, hinner',
    hafter⟩ := h
  -- trimming may also take blanks from inside of the brackets, and leaves a shorter list
  obtain ⟨g, list, g', hg, hg', hmiddle, htrim⟩ :=
    exists_trim (not_isBlank_of_mem (by decide) ho) (not_isBlank_of_mem (by decide) hc)
      (inner ++ (b ++ inner'))
  have hfree : BracketFree (inner ++ (b ++ inner')) := by
    have hblanks := bracketFree_of_separators (isSeparator_of_blanks hinner)
    have hblanks' := bracketFree_of_separators (isSeparator_of_blanks hinner')
    exact bracketFree_append.mpr ⟨hblanks, bracketFree_append.mpr ⟨hb, hblanks'⟩⟩
  have hlist : BracketFree list := by
    rw [hmiddle] at hfree
    exact (bracketFree_append.mp (bracketFree_append.mp hfree).2).1
  -- so a bracket that is dropped is one that was put around, and no other is there to drop
  have hopening : '[' ∉ list ++ closing := by
    refine List.not_mem_append hlist.1 ?_
    rcases hc with rfl | rfl
    · simp
    · decide
  rw [items, trim_between hbefore hafter, htrim, dropOpening_append ho hopening,
    dropClosing_append_of_not_mem hc hlist.2]
  -- the blanks that were taken too many are between the same items
  calc piecesBetween isSeparator list
      = piecesBetween isSeparator (g ++ (list ++ g')) := (piecesBetween_blanks hg hg' list).symm
    _ = piecesBetween isSeparator (inner ++ (b ++ inner')) := by rw [hmiddle]
    _ = piecesBetween isSeparator b := piecesBetween_blanks hinner hinner' b

/-- There need not be anything around a list. -/
theorem Wraps.refl (t : Text) : Wraps t t := by
  refine ⟨[], [], [], [], [], [], ?_, Or.inl rfl, Or.inl rfl, ?_⟩
  · simp
  · simp

theorem items_of_bracketFree (ht : BracketFree t) : items t = piecesBetween isSeparator t :=
  items_of_wraps ht (Wraps.refl t)

/-- Separators between two lists keep their items apart. -/
theorem items_append (ha : BracketFree a) (hb : BracketFree b) (hne : s ≠ [])
    (hs : ∀ c ∈ s, isSeparator c = true) : items (a ++ (s ++ b)) = items a ++ items b := by
  have hwhole : BracketFree (a ++ (s ++ b)) :=
    bracketFree_append.mpr ⟨ha, bracketFree_append.mpr ⟨bracketFree_of_separators hs, hb⟩⟩
  rw [items_of_bracketFree hwhole, items_of_bracketFree ha, items_of_bracketFree hb,
    piecesBetween_append_gap_append hne hs]

/-! ## Reading the items -/

theorem namesNumber_readNumbered : NamesNumber readNumbered := by
  intro count item number
  unfold readNumbered
  cases readItem? item <;> rfl

theorem readList_eq_mapM (t : Text) : readList t = (items t).zipIdx.mapM readNumbered := by
  rw [readList, readItems_eq_mapM]

/-- A byte list is refused for one of its items and for nothing else. -/
theorem exists_malformedByte {fault : Fault} (h : readList t = .error fault) :
    ∃ index token, fault = .malformedByte index token := by
  rw [readList_eq_mapM, mapM_eq_error_iff] at h
  obtain ⟨_, item, _, _, _, hitem⟩ := h
  exact ⟨item.2, item.1, (readNumbered_eq_error_iff.mp hitem).2⟩

theorem readList_append_error (ha : BracketFree a) (hb : BracketFree b) (hne : s ≠ [])
    (hs : ∀ c ∈ s, isSeparator c = true) {fault : Fault} (hread : readList a = .error fault) :
    readList (a ++ (s ++ b)) = .error fault := by
  rw [readList_eq_mapM] at hread
  rw [readList_eq_mapM, items_append ha hb hne hs, List.zipIdx_append]
  exact mapM_append_error hread _

/-- The second list is read as it stands alone, behind the bytes of the first. -/
theorem readList_append_ok (ha : BracketFree a) (hb : BracketFree b) (hne : s ≠ [])
    (hs : ∀ c ∈ s, isSeparator c = true) {bytes : Bytes} (hread : readList a = .ok bytes) :
    readList (a ++ (s ++ b))
      = ((readList b).mapError (Fault.later bytes.length)).map (bytes ++ ·) := by
  rw [readList_eq_mapM] at hread
  rw [readList_eq_mapM, readList_eq_mapM, items_append ha hb hne hs]
  exact namesNumber_readNumbered.mapM_zipIdx_append hread _

/-- **The law of byte lists in other texts**, for lists without brackets. Brackets and blanks around
a list change nothing. Two lists with separators between them are refused for the fault of the
first, or else for that of the second, later by the number of bytes of the first; and if there is
none, the bytes are those of the first and then those of the second. -/
theorem readList_composes (ha : BracketFree a) (hb : BracketFree b) :
    (∀ t, Wraps t b → readList t = readList b)
      ∧ ∀ s, s ≠ [] → (∀ c ∈ s, isSeparator c = true) →
        (∀ fault, readList a = .error fault → ∃ index token, fault = .malformedByte index token
          ∧ readList (a ++ (s ++ b)) = .error (.malformedByte index token))
        ∧ ∀ bytes, readList a = .ok bytes →
          (∀ fault, readList b = .error fault → ∃ index token, fault = .malformedByte index token
            ∧ readList (a ++ (s ++ b)) = .error (.malformedByte (bytes.length + index) token))
          ∧ ∀ bytes', readList b = .ok bytes' →
            readList (a ++ (s ++ b)) = .ok (bytes ++ bytes') := by
  refine ⟨fun t hwraps => ?_, fun s hne hs => ⟨fun fault hread => ?_, fun bytes hread => ?_⟩⟩
  · rw [readList_eq_mapM, readList_eq_mapM, items_of_wraps hb hwraps, items_of_bracketFree hb]
  · -- a fault of the first list is met before the second is looked at
    obtain ⟨index, token, rfl⟩ := exists_malformedByte hread
    exact ⟨index, token, rfl, readList_append_error ha hb hne hs hread⟩
  · rw [readList_append_ok ha hb hne hs hread]
    constructor
    · intro fault hfault
      obtain ⟨index, token, rfl⟩ := exists_malformedByte hfault
      refine ⟨index, token, rfl, ?_⟩
      rw [hfault]
      rfl
    · intro bytes' hbytes'
      rw [hbytes']
      rfl

/-- Two items, a gap of four separators, and a fault behind one more item. And the second list
alone, behind a bracket that nothing closes. -/
theorem readList_composes_gap :
    BracketFree "0x54 7".toList ∧ BracketFree "8 256".toList
      ∧ readList "0x54 7".toList = .ok [84, 7]
      ∧ readList "8 256".toList = .error (.malformedByte 1 "256".toList)
      ∧ readList "0x54 7, ,\n8 256".toList = .error (.malformedByte 3 "256".toList)
      ∧ readList " [ 8 256\t".toList = .error (.malformedByte 1 "256".toList) := by
  have hfirst : BracketFree "0x54 7".toList := by unfold BracketFree; decide
  have hsecond : BracketFree "8 256".toList := by unfold BracketFree; decide
  have hbytes : readList "0x54 7".toList = .ok [84, 7] := by decide +kernel
  have hfault : readList "8 256".toList = .error (.malformedByte 1 "256".toList) := by
    decide +kernel
  have hwraps : Wraps " [ 8 256\t".toList "8 256".toList :=
    ⟨[' '], ['['], [' '], [], [], ['\t'], rfl, Or.inr rfl, Or.inl rfl,
      List.forall_mem_singleton.mpr (by decide), List.forall_mem_singleton.mpr (by decide),
      List.forall_mem_nil _, List.forall_mem_singleton.mpr (by decide)⟩
  have hlaw := readList_composes hfirst hsecond
  have hgap : ∀ c ∈ ", ,\n".toList, isSeparator c = true := List.all_eq_true.mp (by decide)
  obtain ⟨index, token, hmalformed, hwhole⟩ :=
    ((hlaw.2 _ (by decide) hgap).2 _ hbytes).1 _ hfault
  obtain ⟨rfl, rfl⟩ := Fault.malformedByte.inj hmalformed
  exact ⟨hfirst, hsecond, hbytes, hfault, hwhole, (hlaw.1 _ hwraps).trans hfault⟩

end DecoderKit.Dump
