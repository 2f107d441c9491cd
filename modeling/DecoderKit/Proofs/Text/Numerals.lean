import Mathlib.Data.List.Forall2
import Mathlib.Data.List.TakeWhile
import Mathlib.Data.Nat.Digits.Defs
import DecoderKit.Text.Numeral

/-!
# What a numeral is, and what reading one comes to

The reader goes through the digits from the left and stops at the first that fails.
`readDigits_eq` says what that comes to, in any base: only the digits before the
first other character count; if their value passes the bound, the numeral is too
large, whatever follows; otherwise it is malformed unless they are the whole text.

The invariant behind it is that the value already read is within the bound. A value
only grows with further digits, so once it is above the bound it stays there, and
the place at which the reader stops does not matter.

`IsDecimal` is the grammar of decimal numerals, and `read_ten_eq_ok_iff` says that
the reader accepts exactly those within the bound.

At the end stand the written numerals. `toDigits_eq_map` says what digits they consist
of, and `read_toDigits` that they are read back, with zeros in front or without.
-/

namespace DecoderKit.Numeral

/-- Whether a character is a digit of a base. -/
def isDigitOf (base : Nat) (c : Char) : Bool := (digit? base c).isSome

/-- The digits that a text starts with. -/
def leadingDigits (base : Nat) (t : Text) : Text := t.takeWhile (isDigitOf base)

/-- The value of digits, going on from a value already read. -/
def valueFrom (base value : Nat) (t : Text) : Nat :=
  t.foldl (fun n c => n * base + (digit? base c).getD 0) value

/-! ## Reading digits -/

theorem le_valueFrom {base : Nat} (hb : 0 < base) (value : Nat) (t : Text) :
    value ≤ valueFrom base value t := by
  induction t generalizing value with
  | nil => exact Nat.le_refl _
  | cons c rest ih =>
      have h1 : value ≤ value * base := Nat.le_mul_of_pos_right _ hb
      have h2 := ih (value * base + (digit? base c).getD 0)
      rw [valueFrom] at h2 ⊢
      rw [List.foldl_cons]
      omega

theorem leadingDigits_cons {base d : Nat} {c : Char} {rest : Text}
    (h : digit? base c = some d) :
    leadingDigits base (c :: rest) = c :: leadingDigits base rest := by
  rw [leadingDigits, List.takeWhile_cons_of_pos]
  · rfl
  · rw [isDigitOf, h]; rfl

theorem leadingDigits_cons_none {base : Nat} {c : Char} {rest : Text}
    (h : digit? base c = none) : leadingDigits base (c :: rest) = [] := by
  rw [leadingDigits, List.takeWhile_cons_of_neg]
  rw [isDigitOf, h]; simp

theorem valueFrom_cons {base value d : Nat} {c : Char} {rest : Text}
    (h : digit? base c = some d) :
    valueFrom base value (c :: rest) = valueFrom base (value * base + d) rest := by
  rw [valueFrom, List.foldl_cons, h]; rfl

/-- **What reading digits comes to**, as long as the value already read is within the bound. -/
theorem readDigits_eq {base bound value : Nat} (hb : 0 < base) (hv : value ≤ bound)
    (t : Text) : readDigits base bound value t
      = if bound < valueFrom base value (leadingDigits base t) then .error .tooLarge
        else if leadingDigits base t = t then .ok (valueFrom base value t)
        else .error .malformed := by
  induction t generalizing value with
  | nil =>
      have hbound : ¬ bound < valueFrom base value [] := Nat.not_lt.mpr hv
      have hnil : leadingDigits base [] = [] := rfl
      rw [readDigits, hnil, if_neg hbound, if_pos rfl]
      rfl
  | cons c rest ih =>
      rw [readDigits]
      cases hd : digit? base c with
      | none =>
          -- no digit of `c` or behind it counts, so the bound has held to the end
          have hbound : ¬ bound < valueFrom base value [] := Nat.not_lt.mpr hv
          rw [leadingDigits_cons_none hd, if_neg hbound, if_neg (by simp)]
      | some d =>
          rw [leadingDigits_cons hd, valueFrom_cons hd, valueFrom_cons hd]
          simp only [List.cons.injEq, true_and]
          by_cases hlt : bound < value * base + d
          · -- above the bound already, and further digits lead no way back
            have hle := le_valueFrom hb (value * base + d) (leadingDigits base rest)
            rw [if_pos hlt, if_pos (Nat.lt_of_lt_of_le hlt hle)]
          · have hv' : value * base + d ≤ bound := Nat.not_lt.mp hlt
            rw [if_neg hlt, ih hv']

/-- **What reading a numeral comes to.** -/
theorem read_eq {base : Nat} (hb : 0 < base) (bound : Nat) (t : Text) :
    read base bound t
      = if bound < valueFrom base 0 (leadingDigits base (unsigned t)) then .error .tooLarge
        else if unsigned t ≠ [] ∧ leadingDigits base (unsigned t) = unsigned t then
          .ok (valueFrom base 0 (unsigned t))
        else .error .malformed := by
  rw [read]
  split
  · rename_i hnil
    have hbound : ¬ bound < valueFrom base 0 (leadingDigits base []) := Nat.not_lt_zero _
    rw [hnil, if_neg hbound, if_neg (by simp)]
  · rename_i hne
    have hne' : unsigned t ≠ [] := hne
    rw [readDigits_eq hb (Nat.zero_le _)]
    simp only [hne', ne_eq, not_false_eq_true, true_and]

/-- The reader accepts digits behind at most one plus sign, as long as their value is within the
bound. -/
theorem read_ok_iff {base : Nat} (hb : 0 < base) {bound n : Nat} {t : Text} :
    read base bound t = .ok n ↔ unsigned t ≠ [] ∧ (∀ c ∈ unsigned t, isDigitOf base c = true)
      ∧ valueFrom base 0 (unsigned t) = n ∧ n ≤ bound := by
  rw [read_eq hb]
  refine ⟨fun h => ?_, fun h => ?_⟩
  · split at h
    · exact absurd h (by simp)
    · -- accepted, so all that is left is that the digits are the whole text
      rename_i hbound
      split at h
      · rename_i hall
        obtain ⟨hne, htake⟩ := hall
        have hn := Except.ok.inj h
        rw [htake, hn] at hbound
        exact ⟨hne, List.takeWhile_eq_self_iff.mp htake, hn, Nat.not_lt.mp hbound⟩
      · exact absurd h (by simp)
  · obtain ⟨hne, hdigits, hn, hbound⟩ := h
    have htake : leadingDigits base (unsigned t) = unsigned t :=
      List.takeWhile_eq_self_iff.mpr hdigits
    rw [htake, hn, if_neg (Nat.not_lt.mpr hbound), if_pos ⟨hne, rfl⟩]

/-! ## Decimal numerals -/

theorem digit?_ten (c : Char) :
    digit? 10 c = if c.isDigit then some (c.toNat - '0'.toNat) else none := by
  have hle : ∀ a b : Char, a ≤ b ↔ a.toNat ≤ b.toNat := fun a b => UInt32.le_iff_toNat_le
  have hdigit := Char.isDigit_iff_toNat (c := c)
  rw [digit?, digitValue?]
  simp only [hle]
  by_cases h : c.isDigit
  · obtain ⟨h1, h2⟩ := hdigit.mp h
    have h3 : c.toNat - '0'.toNat < 10 := by
      have : '9'.toNat = 57 := rfl
      have : '0'.toNat = 48 := rfl
      omega
    rw [if_pos ⟨h1, h2⟩, if_pos h, Option.filter_some, if_pos (decide_eq_true h3)]
  · rw [if_neg fun h' => h (hdigit.mpr h'), if_neg h]
    -- letters are worth ten and more
    split
    · rw [Option.filter_some, if_neg (by simp)]
    · split
      · rw [Option.filter_some, if_neg (by simp)]
      · rfl

theorem isDigitOf_ten (c : Char) : isDigitOf 10 c = c.isDigit := by
  rw [isDigitOf, digit?_ten]
  cases c.isDigit <;> rfl

theorem leadingDigits_ten (t : Text) : leadingDigits 10 t = t.takeWhile Char.isDigit := by
  rw [leadingDigits, funext isDigitOf_ten]

/-- The value of decimal digits is the library's. -/
theorem valueFrom_ten {t : Text} (h : ∀ c ∈ t, c.isDigit = true) (value : Nat) :
    valueFrom 10 value t = Nat.ofDigitChars 10 t value := by
  induction t generalizing value with
  | nil => rw [valueFrom, List.foldl_nil, Nat.ofDigitChars_nil]
  | cons c rest ih =>
      obtain ⟨hc, hrest⟩ := List.forall_mem_cons.mp h
      have hd : digit? 10 c = some (c.toNat - '0'.toNat) := by rw [digit?_ten, if_pos hc]
      rw [valueFrom_cons hd, ih hrest, Nat.ofDigitChars_cons, Nat.mul_comm]

/-- Decimal digits, one at least, with their value. -/
structure IsDigits (t : Text) (n : Nat) : Prop where
  nonempty : t ≠ []
  digits : ∀ c ∈ t, c.isDigit = true
  value : Nat.ofDigitChars 10 t 0 = n

/-- A decimal numeral with its value: digits, behind a single plus sign or behind nothing. -/
inductive IsDecimal : Text → Nat → Prop where
  | bare {t : Text} {n : Nat} : IsDigits t n → IsDecimal t n
  | signed {t : Text} {n : Nat} : IsDigits t n → IsDecimal ('+' :: t) n

theorem unsigned_eq_self {t : Text} (h : ¬ ∃ digits, t = '+' :: digits) : unsigned t = t := by
  unfold unsigned
  split
  · rename_i digits; exact absurd ⟨digits, rfl⟩ h
  · rfl

theorem IsDigits.unsigned_eq {t : Text} {n : Nat} (h : IsDigits t n) : unsigned t = t := by
  refine unsigned_eq_self fun hsign => ?_
  obtain ⟨digits, ht⟩ := hsign
  have hplus : Char.isDigit '+' = true := h.digits '+' (ht ▸ List.mem_cons_self ..)
  exact Bool.noConfusion hplus

theorem isDecimal_iff {t : Text} {n : Nat} : IsDecimal t n ↔ IsDigits (unsigned t) n := by
  refine ⟨fun h => ?_, fun h => ?_⟩
  · cases h with
    | bare h => rw [h.unsigned_eq]; exact h
    | signed h => exact h
  · by_cases hsign : ∃ digits, t = '+' :: digits
    · obtain ⟨digits, ht⟩ := hsign
      subst ht
      exact IsDecimal.signed h
    · rw [unsigned_eq_self hsign] at h
      exact IsDecimal.bare h

/-- **The reader accepts the decimal numerals within the bound, with their values.** -/
theorem read_ten_eq_ok_iff {bound n : Nat} {t : Text} :
    read 10 bound t = .ok n ↔ IsDecimal t n ∧ n ≤ bound := by
  rw [isDecimal_iff, read_ok_iff (show 0 < 10 by omega)]
  simp only [isDigitOf_ten]
  refine ⟨fun h => ?_, fun h => ?_⟩
  · obtain ⟨hne, hdigits, hn, hbound⟩ := h
    rw [valueFrom_ten hdigits] at hn
    exact ⟨⟨hne, hdigits, hn⟩, hbound⟩
  · obtain ⟨⟨hne, hdigits, hn⟩, hbound⟩ := h
    exact ⟨hne, hdigits, by rw [valueFrom_ten hdigits, hn], hbound⟩

/-! ## The value of digits -/

/-- The value of digits is the one that the library gives their list, lowest digit first. -/
theorem valueFrom_eq_ofDigits {base : Nat} {t : Text} {ds : List Nat}
    (h : List.Forall₂ (fun c d => digit? base c = some d) t ds) (value : Nat) :
    valueFrom base value t = value * base ^ t.length + Nat.ofDigits base ds.reverse := by
  induction h generalizing value with
  | nil => simp [valueFrom]
  | @cons c d rest ds hc hrest ih =>
      have hlen : ds.reverse.length = rest.length := by rw [List.length_reverse, hrest.length_eq]
      rw [valueFrom_cons hc, ih, List.reverse_cons, Nat.ofDigits_append, Nat.ofDigits_singleton,
        hlen, List.length_cons, Nat.pow_succ]
      ring

/-! ## Written numerals -/

/-- A written digit is read back, in any base that goes up to sixteen. -/
theorem digit?_digitChar {base d : Nat} (hle : base ≤ 16) (hd : d < base) :
    digit? base d.digitChar = some d := by
  have hvalue : ∀ d < 16, digitValue? d.digitChar = some d := by decide
  rw [digit?, hvalue d (Nat.lt_of_lt_of_le hd hle), Option.filter_some,
    if_pos (decide_eq_true hd)]

/-- **A written numeral consists of the digits of its number.** -/
theorem toDigits_eq_map {base : Nat} (hb : 1 < base) (n : Nat) :
    ∃ ds : List Nat, Nat.toDigits base n = ds.map Nat.digitChar ∧ (∀ d ∈ ds, d < base)
      ∧ Nat.ofDigits base ds.reverse = n := by
  -- a number is a digit, or a number with a digit behind it
  induction n using Nat.base_induction base hb with
  | single d hd => exact ⟨[d], Nat.toDigits_of_lt_base hd, by simpa using hd, by simp⟩
  | digit m d hd hm ih =>
      obtain ⟨ds, hds, hlt, hvalue⟩ := ih
      refine ⟨ds ++ [d], ?_, ?_, ?_⟩
      · rw [← Nat.toDigits_append_toDigits hb hm hd, hds, Nat.toDigits_of_lt_base hd,
          List.map_append]
        rfl
      · intro x hx
        rcases List.mem_append.mp hx with hx | hx
        · exact hlt x hx
        · exact List.mem_singleton.mp hx ▸ hd
      · rw [List.reverse_append, List.reverse_singleton, List.singleton_append, Nat.ofDigits_cons,
          hvalue, Nat.add_comm]

/-- A written numeral consists of digits below its base. -/
theorem mem_toDigits {base n : Nat} (hb : 1 < base) {c : Char} (h : c ∈ Nat.toDigits base n) :
    ∃ d < base, c = Nat.digitChar d := by
  obtain ⟨ds, hds, hlt, _⟩ := toDigits_eq_map hb n
  rw [hds] at h
  obtain ⟨d, hd, rfl⟩ := List.mem_map.mp h
  exact ⟨d, hlt d hd, rfl⟩

/-- Only the numeral of zero starts with a zero. -/
theorem head?_toDigits_eq_zero_iff {base : Nat} (hb : 1 < base) (n : Nat) :
    (Nat.toDigits base n).head? = some '0' ↔ n = 0 := by
  induction n using Nat.base_induction base hb with
  | single d hd => simp [Nat.toDigits_of_lt_base hd]
  | digit m d hd hm ih =>
      -- the first digit is that of the larger part, which is not zero
      rw [← Nat.toDigits_append_toDigits hb hm hd,
        List.head?_append_of_ne_nil _ Nat.toDigits_ne_nil, ih]
      have hpos : 0 < base * m := Nat.mul_pos (by omega) hm
      omega

/-- Digits of a base carry no plus sign. -/
theorem unsigned_eq_self_of_digits {base : Nat} {t : Text}
    (h : ∀ c ∈ t, isDigitOf base c = true) : unsigned t = t := by
  refine unsigned_eq_self fun hsign => ?_
  obtain ⟨digits, ht⟩ := hsign
  have hplus : isDigitOf base '+' = true := h '+' (ht ▸ List.mem_cons_self ..)
  have hnone : digitValue? '+' = none := by decide
  rw [isDigitOf, digit?, hnone] at hplus
  exact Bool.noConfusion hplus

theorem valueFrom_zeros {base : Nat} (hb : 0 < base) (zeros : Nat) (t : Text) :
    valueFrom base 0 (List.replicate zeros '0' ++ t) = valueFrom base 0 t := by
  induction zeros with
  | zero => rfl
  | succ zeros ih =>
      have hzero : digit? base '0' = some 0 := by
        rw [digit?, show digitValue? '0' = some 0 by decide, Option.filter_some,
          if_pos (decide_eq_true hb)]
      rw [List.replicate_succ, List.cons_append, valueFrom_cons hzero, Nat.zero_mul, Nat.add_zero,
        ih]

theorem isDigitOf_of_mem_toDigits {base n : Nat} (hb : 1 < base) (hle : base ≤ 16) {c : Char}
    (h : c ∈ Nat.toDigits base n) : isDigitOf base c = true := by
  obtain ⟨d, hd, rfl⟩ := mem_toDigits hb h
  rw [isDigitOf, digit?_digitChar hle hd]
  rfl

/-- The digits of a written numeral have its value. -/
theorem valueFrom_toDigits {base : Nat} (hb : 1 < base) (hle : base ≤ 16) (n : Nat) :
    valueFrom base 0 (Nat.toDigits base n) = n := by
  obtain ⟨ds, hds, hlt, hvalue⟩ := toDigits_eq_map hb n
  have hpairs : List.Forall₂ (fun c d => digit? base c = some d) (ds.map Nat.digitChar) ds := by
    rw [List.forall₂_map_left_iff, List.forall₂_same]
    exact fun d hd => digit?_digitChar hle (hlt d hd)
  rw [hds, valueFrom_eq_ofDigits hpairs, hvalue, Nat.zero_mul, Nat.zero_add]

/-- **A written numeral is read back**, and zeros in front change nothing. -/
theorem read_toDigits {base bound n : Nat} (hb : 1 < base) (hle : base ≤ 16) (hn : n ≤ bound)
    (zeros : Nat) :
    read base bound (List.replicate zeros '0' ++ Nat.toDigits base n) = .ok n := by
  have hdigits : ∀ c ∈ List.replicate zeros '0' ++ Nat.toDigits base n,
      isDigitOf base c = true := by
    intro c hc
    rcases List.mem_append.mp hc with hc | hc
    · rw [List.eq_of_mem_replicate hc, isDigitOf, show '0' = Nat.digitChar 0 from rfl,
        digit?_digitChar hle (by omega)]
      rfl
    · exact isDigitOf_of_mem_toDigits hb hle hc
  rw [read_ok_iff (by omega), unsigned_eq_self_of_digits hdigits]
  refine ⟨by simp, hdigits, ?_, hn⟩
  rw [valueFrom_zeros (by omega), valueFrom_toDigits hb hle]

theorem isDigits_decimal (n : Nat) : IsDigits (decimal n) n where
  nonempty := Nat.toDigits_ne_nil
  digits := fun _ hc => Nat.isDigit_of_mem_toDigits (by decide) (by decide) hc
  value := Nat.ofDigitChars_ten_toDigits

end DecoderKit.Numeral
