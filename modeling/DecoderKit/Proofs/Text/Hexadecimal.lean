import DecoderKit.Proofs.Sweep
import DecoderKit.Proofs.Text.Numerals

/-!
# Hexadecimal numerals

Reading takes letters of both cases, writing uses the lower one. `IsHexadecimal` is the
grammar of what is read, and `read_sixteen_eq_ok_iff` says that the reader accepts
exactly those numerals within the bound. `IsPaddedHex` is the form of what is written:
two digits at least, and more only for a number that needs them.
-/

namespace DecoderKit.Numeral

/-- The character is the hexadecimal digit of this value, in lower or in upper case. -/
def IsHexDigit (c : Char) (d : Nat) : Prop :=
  d < 16 ∧ (c = d.digitChar ∨ c = d.digitChar.toUpper)

instance (c : Char) (d : Nat) : Decidable (IsHexDigit c d) :=
  inferInstanceAs (Decidable (_ ∧ _))

/-- Hexadecimal digits, one at least, with their value. -/
structure IsHexDigits (t : Text) (n : Nat) : Prop where
  nonempty : t ≠ []
  value : ∃ ds, List.Forall₂ IsHexDigit t ds ∧ Nat.ofDigits 16 ds.reverse = n

/-- A hexadecimal numeral with its value: digits, behind a single plus sign or behind nothing. -/
inductive IsHexadecimal : Text → Nat → Prop where
  | bare {t : Text} {n : Nat} : IsHexDigits t n → IsHexadecimal t n
  | signed {t : Text} {n : Nat} : IsHexDigits t n → IsHexadecimal ('+' :: t) n

/-! ## Reading -/

/-- All digits are ASCII. -/
theorem toNat_lt_of_digit? {base d : Nat} {c : Char} (h : digit? base c = some d) :
    c.toNat < 128 := by
  have hle : ∀ a b : Char, a ≤ b ↔ a.toNat ≤ b.toNat := fun a b => UInt32.le_iff_toNat_le
  have h9 : '9'.toNat = 57 := rfl
  have hz : 'z'.toNat = 122 := rfl
  have hZ : 'Z'.toNat = 90 := rfl
  obtain ⟨hvalue, _⟩ := Option.filter_eq_some_iff.mp h
  rw [digitValue?] at hvalue
  simp only [hle] at hvalue
  split at hvalue
  · omega
  · split at hvalue
    · omega
    · split at hvalue
      · omega
      · exact absurd hvalue (by simp)

theorem digit?_sixteen_eq_some_iff {c : Char} {d : Nat} :
    digit? 16 c = some d ↔ IsHexDigit c d := by
  refine ⟨fun h => ?_, fun h => ?_⟩
  · -- beyond ASCII there are no digits, and within it all can be tried
    have hascii : ∀ n < 128, ∀ d ∈ digit? 16 (Char.ofNat n), IsHexDigit (Char.ofNat n) d := by
      decide +kernel
    have hc := hascii c.toNat (toNat_lt_of_digit? h) d
    rw [Char.ofNat_toNat] at hc
    exact hc h
  · have hall : ∀ d < 16,
        digit? 16 d.digitChar = some d ∧ digit? 16 d.digitChar.toUpper = some d := by decide
    obtain ⟨hd, rfl | rfl⟩ := h
    · exact (hall d hd).1
    · exact (hall d hd).2

/-- Digits are those of the base, and their value is the reader's. -/
theorem isHexDigits_iff {t : Text} {n : Nat} :
    IsHexDigits t n ↔ t ≠ [] ∧ (∀ c ∈ t, isDigitOf 16 c = true) ∧ valueFrom 16 0 t = n := by
  have hvalue : ∀ {ds : List Nat}, List.Forall₂ IsHexDigit t ds →
      valueFrom 16 0 t = Nat.ofDigits 16 ds.reverse := by
    intro ds h
    have hpairs : List.Forall₂ (fun c d => digit? 16 c = some d) t ds :=
      h.imp fun _ _ hcd => digit?_sixteen_eq_some_iff.mpr hcd
    rw [valueFrom_eq_ofDigits hpairs, Nat.zero_mul, Nat.zero_add]
  refine ⟨fun h => ?_, fun h => ?_⟩
  · obtain ⟨hne, ds, hds, hn⟩ := h
    refine ⟨hne, fun c hc => ?_, by rw [hvalue hds, hn]⟩
    obtain ⟨d, _, hd⟩ := exists_related hds c hc
    rw [isDigitOf, digit?_sixteen_eq_some_iff.mpr hd]
    rfl
  · obtain ⟨hne, hdigits, hn⟩ := h
    have hds : List.Forall₂ IsHexDigit t (t.map fun c => (digit? 16 c).getD 0) := by
      rw [List.forall₂_map_right_iff, List.forall₂_same]
      intro c hc
      obtain ⟨d, hd⟩ := Option.isSome_iff_exists.mp (hdigits c hc)
      rw [hd]
      exact digit?_sixteen_eq_some_iff.mp hd
    exact ⟨hne, _, hds, by rw [← hvalue hds, hn]⟩

theorem isHexadecimal_iff {t : Text} {n : Nat} :
    IsHexadecimal t n ↔ IsHexDigits (unsigned t) n := by
  refine ⟨fun h => ?_, fun h => ?_⟩
  · cases h with
    | bare h => rwa [unsigned_eq_self_of_digits (isHexDigits_iff.mp h).2.1]
    | signed h => exact h
  · by_cases hsign : ∃ digits, t = '+' :: digits
    · obtain ⟨digits, ht⟩ := hsign
      subst ht
      exact IsHexadecimal.signed h
    · rw [unsigned_eq_self hsign] at h
      exact IsHexadecimal.bare h

/-- **The reader accepts the hexadecimal numerals within the bound, with their values.** -/
theorem read_sixteen_eq_ok_iff {bound n : Nat} {t : Text} :
    read 16 bound t = .ok n ↔ IsHexadecimal t n ∧ n ≤ bound := by
  rw [isHexadecimal_iff, isHexDigits_iff, read_ok_iff (show 0 < 16 by omega), and_assoc,
    and_assoc]

/-! ## Writing -/

/-- The digits of a number in lower case, two at least, with a zero in front only where one digit
would be enough. -/
structure IsPaddedHex (t : Text) (n : Nat) : Prop where
  value : ∃ ds : List Nat, t = ds.map Nat.digitChar ∧ (∀ d ∈ ds, d < 16)
    ∧ Nat.ofDigits 16 ds.reverse = n
  length : 2 ≤ t.length
  leading : t.head? = some '0' ↔ n < 16

theorem one_lt_length_toDigits {n : Nat} (h : 16 ≤ n) : 1 < (Nat.toDigits 16 n).length := by
  have hdigits : (Nat.toDigits 16 n).length ≤ 1 ↔ n < 16 ^ 1 :=
    Nat.length_toDigits_le_iff (by decide) (by decide)
  omega

theorem hexByte_eq (n : Nat) :
    hexByte n = if n < 16 then ['0', n.digitChar] else Nat.toDigits 16 n := by
  rw [hexByte, hex, List.leftpad]
  split
  · rename_i hlt
    rw [Nat.toDigits_of_lt_base hlt]
    rfl
  · rename_i hle
    -- two digits or more, so there is nothing to pad
    rw [Nat.sub_eq_zero_of_le (one_lt_length_toDigits (by omega))]
    rfl

/-- **A number is written in this form.** -/
theorem isPaddedHex_hexByte (n : Nat) : IsPaddedHex (hexByte n) n := by
  rw [hexByte_eq]
  split
  · -- one digit, and a zero in front of it
    rename_i hlt
    refine ⟨⟨[0, n], rfl, ?_, ?_⟩, Nat.le_refl _, ?_⟩
    · simpa using hlt
    · simp [Nat.ofDigits_cons]
    · simpa using hlt
  · rename_i hle
    obtain ⟨ds, hds, hlt, hvalue⟩ := toDigits_eq_map (show 1 < 16 by decide) n
    refine ⟨⟨ds, hds, hlt, hvalue⟩, one_lt_length_toDigits (by omega), ?_⟩
    rw [head?_toDigits_eq_zero_iff (by decide)]
    omega

/-- Exactly two hexadecimal digits. -/
def IsHexPair (t : Text) : Prop := t.length = 2 ∧ ∀ c ∈ t, ∃ d, IsHexDigit c d

/-- **The numbers up to `0xff` are written with two digits, and no others.** -/
theorem isHexPair_hexByte_iff {n : Nat} : IsHexPair (hexByte n) ↔ n ≤ 0xff := by
  have hlength : (hexByte n).length = 2 ↔ n < 16 ^ 2 := by
    have hdigits : (Nat.toDigits 16 n).length ≤ 2 ↔ n < 16 ^ 2 :=
      Nat.length_toDigits_le_iff (by decide) (by decide)
    rw [hexByte, List.length_leftpad, hex]
    omega
  unfold IsHexPair
  rw [hlength]
  constructor
  · rintro ⟨hn, _⟩
    omega
  · intro hn
    refine ⟨by omega, fun c hc => ?_⟩
    obtain ⟨ds, hds, hlt, _⟩ := (isPaddedHex_hexByte n).value
    rw [hds] at hc
    obtain ⟨d, hd, rfl⟩ := List.mem_map.mp hc
    exact ⟨d, hlt d hd, Or.inl rfl⟩

/-- A number written in this form is read back. -/
theorem read_hexByte {bound n : Nat} (hn : n ≤ bound) : read 16 bound (hexByte n) = .ok n :=
  read_toDigits (by decide) (by decide) hn _

end DecoderKit.Numeral
