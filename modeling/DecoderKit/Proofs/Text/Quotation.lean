import DecoderKit.Proofs.Text.Hexadecimal
import DecoderKit.Text.Quoted

/-!
# What stands inside quotes

Quoting replaces every character that is not shown, and what it puts there is shown itself.
So a quoted text or byte string holds shown characters only, whatever it is the quotation
of: it has no controls, and it stays on its line.
-/

namespace DecoderKit.Quoted

open Text (isShown)

variable {c x : Char}

/-- The characters that escapes are laid out with, apart from digits. -/
def marks : Text := ['\\', '"', '0', 't', 'n', 'r', 'u', 'x', '\x7b', '\x7d']

/-- A character is escaped by a mark, or left as it is, or written by its code point. -/
theorem escape_cases (c : Char) :
    (∃ mark ∈ marks, escape c = ['\\', mark]) ∨ (isShown c = true ∧ escape c = [c])
      ∨ escape c = ['\\', 'u', '\x7b'] ++ Numeral.hex c.toNat ++ ['\x7d'] := by
  rw [escape]
  -- six characters have a mark, and only then it matters whether the character is shown
  split
  · exact Or.inl ⟨'0', by decide, rfl⟩
  split
  · exact Or.inl ⟨'t', by decide, rfl⟩
  split
  · exact Or.inl ⟨'n', by decide, rfl⟩
  split
  · exact Or.inl ⟨'r', by decide, rfl⟩
  split
  · exact Or.inl ⟨'"', by decide, rfl⟩
  split
  · exact Or.inl ⟨'\\', by decide, rfl⟩
  split
  · rename_i hshown
    exact Or.inr (Or.inl ⟨hshown, rfl⟩)
  · exact Or.inr (Or.inr rfl)

/-! ## Only shown characters -/

/-- All tables of characters that are not shown, except for the controls. -/
def hiddenRanges : List (Nat × Nat) :=
  Text.formatRanges ++ Text.privateRanges ++ Text.separatorRanges ++ Text.fillerRanges
    ++ Text.extenderRanges ++ Text.unassignedRanges

theorem isShown_eq (c : Char) :
    isShown c = !(Text.isControl c || inRanges hiddenRanges c) := by
  simp [isShown, inRanges, hiddenRanges, List.any_append, Bool.or_assoc]

/-- The tables begin behind ASCII, where only the controls are not shown. -/
theorem isShown_of_ascii (h : 0x20 ≤ c.toNat) (h' : c.toNat < 0x7f) : isShown c = true := by
  have hlate : ∀ r ∈ hiddenRanges, 0x7f ≤ r.1 := by decide +kernel
  rw [isShown_eq, Bool.not_eq_true', Bool.eq_false_iff, Ne, Bool.or_eq_true, Text.isControl,
    inRanges_iff, inRanges_iff]
  rintro (⟨r, hr, hle, hle'⟩ | ⟨r, hr, hle, _⟩)
  · rcases List.mem_pair.mp hr with rfl | rfl
    · exact absurd hle' (by omega)
    · exact absurd hle (by omega)
  · exact absurd (Nat.le_trans (hlate r hr) hle) (by omega)

/-- Words in ASCII without controls are shown. -/
theorem isShown_of_mem_words {t : Text}
    (hall : (t.all fun c => 0x20 ≤ c.toNat ∧ c.toNat < 0x7f) = true) (h : x ∈ t) :
    isShown x = true := by
  obtain ⟨hlow, hhigh⟩ := of_decide_eq_true (List.all_eq_true.mp hall x h)
  exact isShown_of_ascii hlow hhigh

theorem isShown_of_mem_marks (h : x ∈ marks) : isShown x = true :=
  isShown_of_mem_words (by decide) h

theorem isShown_digitChar {d : Nat} (hd : d < 16) :
    isShown d.digitChar = true ∧ isShown d.digitChar.toUpper = true := by
  have hall : ∀ d < 16, (0x20 ≤ d.digitChar.toNat ∧ d.digitChar.toNat < 0x7f)
      ∧ 0x20 ≤ d.digitChar.toUpper.toNat ∧ d.digitChar.toUpper.toNat < 0x7f := by decide
  obtain ⟨hlower, hupper⟩ := hall d hd
  exact ⟨isShown_of_ascii hlower.1 hlower.2, isShown_of_ascii hupper.1 hupper.2⟩

theorem isShown_of_mem_escape (h : x ∈ escape c) : isShown x = true := by
  rcases escape_cases c with ⟨mark, hmark, hescape⟩ | ⟨hshown, hescape⟩ | hescape
  · rw [hescape] at h
    rcases List.mem_pair.mp h with rfl | rfl
    · exact isShown_of_mem_marks (by decide)
    · exact isShown_of_mem_marks hmark
  · rw [hescape, List.mem_singleton] at h
    rwa [h]
  · rw [hescape, List.mem_append, List.mem_append] at h
    rcases h with (h | h) | h
    · have hopening : ['\\', 'u', '\x7b'] ⊆ marks := by decide
      exact isShown_of_mem_marks (hopening h)
    · obtain ⟨d, hd, rfl⟩ := Numeral.mem_toDigits (by decide) h
      exact (isShown_digitChar hd).1
    · rw [List.mem_singleton.mp h]
      exact isShown_of_mem_marks (by decide)

theorem isShown_of_mem_escapeByte {b : UInt8} (h : x ∈ escapeByte b) : isShown x = true := by
  rw [escapeByte, List.mem_append] at h
  rcases h with h | h
  · rcases List.mem_pair.mp h with rfl | rfl
    · exact isShown_of_mem_marks (by decide)
    · exact isShown_of_mem_marks (by decide)
  · -- the digits of a byte are in upper case
    obtain ⟨y, hy, rfl⟩ := List.mem_map.mp h
    obtain ⟨ds, hds, hlt, _⟩ := (Numeral.isPaddedHex_hexByte b.toNat).value
    rw [hds] at hy
    obtain ⟨d, hd, rfl⟩ := List.mem_map.mp hy
    exact (isShown_digitChar (hlt d hd)).2

/-- **A quoted byte string holds shown characters only.** -/
theorem isShown_of_mem_quoteBytes {b : Bytes} (h : x ∈ quoteBytes b) : isShown x = true := by
  have hquote : isShown '"' = true := isShown_of_mem_marks (by decide)
  rw [quoteBytes, List.mem_append, List.mem_cons] at h
  rcases h with (rfl | h) | h
  · exact hquote
  · obtain ⟨piece, _, hx⟩ := List.mem_flatMap.mp h
    cases piece with
    | char c => exact isShown_of_mem_escape hx
    | stray bytes =>
        obtain ⟨b, _, hx⟩ := List.mem_flatMap.mp hx
        exact isShown_of_mem_escapeByte hx
  · rwa [List.mem_singleton.mp h]

end DecoderKit.Quoted
