import DecoderKit.Text.Utf8

/-!
# Lossy decoding loses nothing of a text

The bytes of a character are taken apart by `Utf8.scan` into that character and nothing
else: its first byte begins a character of the right length, and what is said about the
second byte keeps out no character (`scan_utf8EncodeChar`). So bytes that encode a text
are decoded to it, without a replacement character that was not there.

A byte below 0x80 stands for itself alone, so a text can be cut at such a byte before or
after it is encoded.
-/

namespace DecoderKit.Utf8

/-! ## The bytes of a character -/

/-- A byte that continues a character, by the six bits that it carries. -/
def continuation (bits : Nat) : UInt8 := UInt8.ofNat (bits + 128)

theorem toNat_continuation {bits : Nat} (h : bits < 64) :
    (continuation bits).toNat = bits + 128 :=
  UInt8.toNat_ofNat_of_lt (show bits + 128 < 256 by omega)

variable {begun : Begun} {bits : Nat} {rest : Bytes}

theorem continuation_in_range (hbits : bits < 64) (hlow : begun.low.toNat ≤ bits + 128)
    (hhigh : bits + 128 ≤ begun.high.toNat) :
    begun.low ≤ continuation bits ∧ continuation bits ≤ begun.high := by
  rw [UInt8.le_iff_toNat_le, UInt8.le_iff_toNat_le, toNat_continuation hbits]
  exact ⟨hlow, hhigh⟩

theorem scan_last (hbits : bits < 64) (howed : begun.owed = 0)
    (hlow : begun.low.toNat ≤ bits + 128) (hhigh : bits + 128 ≤ begun.high.toNat) :
    scan (some begun) (continuation bits :: rest)
      = .char (Char.ofNat (begun.value * 64 + bits)) :: scan none rest := by
  rw [scan, step, if_pos (continuation_in_range hbits hlow hhigh), howed,
    toNat_continuation hbits, Nat.add_sub_cancel]
  rfl

theorem scan_next {owed : Nat} (hbits : bits < 64) (howed : begun.owed = owed + 1)
    (hlow : begun.low.toNat ≤ bits + 128) (hhigh : bits + 128 ≤ begun.high.toNat) :
    scan (some begun) (continuation bits :: rest)
      = scan (some ⟨begun.taken ++ [continuation bits], begun.value * 64 + bits, owed, 0x80, 0xbf⟩)
        rest := by
  rw [scan, step, if_pos (continuation_in_range hbits hlow hhigh), howed,
    toNat_continuation hbits, Nat.add_sub_cancel]
  rfl

theorem scan_lead {b : UInt8} (hb : 0x80 ≤ b) (hlead : lead? b = some begun) :
    scan none (b :: rest) = scan (some begun) rest := by
  rw [scan, step, first, if_neg (UInt8.not_lt.mpr hb), hlead]
  rfl

/-- The first bytes of characters of two bytes. A smaller value is that of a shorter character. -/
theorem lead?_two : ∀ k < 32, 2 ≤ k → 0x80 ≤ UInt8.ofNat (k + 192)
    ∧ lead? (UInt8.ofNat (k + 192)) = some ⟨[UInt8.ofNat (k + 192)], k, 0, 0x80, 0xbf⟩ := by
  decide

/-- The first bytes of characters of three bytes. What may follow keeps out shorter characters
behind the first of them, and surrogates behind another. -/
theorem lead?_three : ∀ k < 16, 0x80 ≤ UInt8.ofNat (k + 224)
    ∧ lead? (UInt8.ofNat (k + 224)) = some ⟨[UInt8.ofNat (k + 224)], k, 1,
      if k = 0 then 0xa0 else 0x80, if k = 13 then 0x9f else 0xbf⟩ := by
  decide

/-- The first bytes of characters of four bytes. What may follow keeps out shorter characters
behind the first of them, and too great values behind the last. -/
theorem lead?_four : ∀ k < 5, 0x80 ≤ UInt8.ofNat (k + 240)
    ∧ lead? (UInt8.ofNat (k + 240)) = some ⟨[UInt8.ofNat (k + 240)], k, 2,
      if k = 0 then 0x90 else 0x80, if k = 4 then 0x8f else 0xbf⟩ := by
  decide

theorem toNat_ite_le {p : Prop} [Decidable p] {a b : UInt8} {n : Nat} (ha : p → a.toNat ≤ n)
    (hb : b.toNat ≤ n) : (if p then a else b).toNat ≤ n := by
  by_cases h : p
  · rw [if_pos h]
    exact ha h
  · rw [if_neg h]
    exact hb

theorem le_toNat_ite {p : Prop} [Decidable p] {a b : UInt8} {n : Nat} (ha : p → n ≤ a.toNat)
    (hb : n ≤ b.toNat) : n ≤ (if p then a else b).toNat := by
  by_cases h : p
  · rw [if_pos h]
    exact ha h
  · rw [if_neg h]
    exact hb

theorem toNat_valid (c : Char) : c.toNat < 0xd800 ∨ 0xdfff < c.toNat ∧ c.toNat < 0x110000 :=
  c.valid

theorem toNat_ofNat_of_ascii {c : Char} (h : c.toNat < 0x80) :
    (UInt8.ofNat c.toNat).toNat = c.toNat :=
  UInt8.toNat_ofNat_of_lt (show c.toNat < 256 by omega)

/-- The bytes of a character, by its length. -/
theorem utf8EncodeChar_cases (c : Char) :
    (c.toNat < 0x80 ∧ String.utf8EncodeChar c = [UInt8.ofNat c.toNat])
      ∨ (0x80 ≤ c.toNat ∧ c.toNat < 0x800 ∧ String.utf8EncodeChar c
        = [UInt8.ofNat (c.toNat / 64 + 192), continuation (c.toNat % 64)])
      ∨ (0x800 ≤ c.toNat ∧ c.toNat < 0x10000 ∧ String.utf8EncodeChar c
        = [UInt8.ofNat (c.toNat / 4096 + 224), continuation (c.toNat / 64 % 64),
          continuation (c.toNat % 64)])
      ∨ (0x10000 ≤ c.toNat ∧ String.utf8EncodeChar c
        = [UInt8.ofNat (c.toNat / 262144 + 240), continuation (c.toNat / 4096 % 64),
          continuation (c.toNat / 64 % 64), continuation (c.toNat % 64)]) := by
  have hval : c.val.toNat = c.toNat := rfl
  have hvalid := toNat_valid c
  unfold String.utf8EncodeChar
  simp only [hval]
  by_cases h₁ : c.toNat ≤ 127
  · rw [if_pos h₁]
    exact Or.inl ⟨by omega, rfl⟩
  by_cases h₂ : c.toNat ≤ 2047
  · rw [if_neg h₁, if_pos h₂, Nat.mod_eq_of_lt (show c.toNat / 64 < 32 by omega)]
    exact Or.inr (Or.inl ⟨by omega, by omega, rfl⟩)
  by_cases h₃ : c.toNat ≤ 65535
  · rw [if_neg h₁, if_neg h₂, if_pos h₃, Nat.mod_eq_of_lt (show c.toNat / 4096 < 16 by omega)]
    exact Or.inr (Or.inr (Or.inl ⟨by omega, by omega, rfl⟩))
  · rw [if_neg h₁, if_neg h₂, if_neg h₃,
      Nat.mod_eq_of_lt (show c.toNat / 262144 < 8 by omega)]
    exact Or.inr (Or.inr (Or.inr ⟨by omega, rfl⟩))

theorem utf8EncodeChar_of_ascii {c : Char} (h : c.toNat < 0x80) :
    String.utf8EncodeChar c = [UInt8.ofNat c.toNat] := by
  rcases utf8EncodeChar_cases c with ⟨_, hbytes⟩ | ⟨h', _⟩ | ⟨h', _⟩ | ⟨h', _⟩
  · exact hbytes
  · omega
  · omega
  · omega

/-- **The bytes of a character are taken apart into that character.** -/
theorem scan_utf8EncodeChar (c : Char) (rest : Bytes) :
    scan none (String.utf8EncodeChar c ++ rest) = .char c :: scan none rest := by
  have hvalid := toNat_valid c
  rcases utf8EncodeChar_cases c with ⟨h, hbytes⟩ | ⟨h, h', hbytes⟩ | ⟨h, h', hbytes⟩ | ⟨h, hbytes⟩
  · have hnat := toNat_ofNat_of_ascii h
    have hascii : UInt8.ofNat c.toNat < 0x80 := by
      rw [UInt8.lt_iff_toNat_lt, hnat]
      exact h
    rw [hbytes, List.singleton_append, scan, step, first, if_pos hascii, hnat, Char.ofNat_toNat]
    rfl
  · -- two bytes: the first holds what the other has no room for
    obtain ⟨hb, hlead⟩ := lead?_two (c.toNat / 64) (by omega) (by omega)
    have hvalue : c.toNat / 64 * 64 + c.toNat % 64 = c.toNat := by omega
    rw [hbytes]
    show scan none (_ :: _ :: rest) = _
    rw [scan_lead hb hlead, scan_last (by omega) rfl (by simp) (by simp; omega), hvalue,
      Char.ofNat_toNat]
  · obtain ⟨hb, hlead⟩ := lead?_three (c.toNat / 4096) (by omega)
    -- behind the last of these bytes the other half of the block is that of the surrogates
    have hlow : (if c.toNat / 4096 = 0 then 0xa0 else 0x80 : UInt8).toNat
        ≤ c.toNat / 64 % 64 + 128 :=
      toNat_ite_le (fun hk => show 0xa0 ≤ _ by omega) (show 0x80 ≤ _ by omega)
    have hhigh : c.toNat / 64 % 64 + 128
        ≤ (if c.toNat / 4096 = 13 then 0x9f else 0xbf : UInt8).toNat :=
      le_toNat_ite (fun hk => show _ ≤ 0x9f by omega) (show _ ≤ 0xbf by omega)
    have hvalue : (c.toNat / 4096 * 64 + c.toNat / 64 % 64) * 64 + c.toNat % 64 = c.toNat := by
      omega
    rw [hbytes]
    show scan none (_ :: _ :: _ :: rest) = _
    rw [scan_lead hb hlead, scan_next (by omega) rfl hlow hhigh,
      scan_last (by omega) rfl (by simp) (by simp; omega), hvalue, Char.ofNat_toNat]
  · obtain ⟨hb, hlead⟩ := lead?_four (c.toNat / 262144) (by omega)
    -- no character is greater than U+10FFFF
    have hlow : (if c.toNat / 262144 = 0 then 0x90 else 0x80 : UInt8).toNat
        ≤ c.toNat / 4096 % 64 + 128 :=
      toNat_ite_le (fun hk => show 0x90 ≤ _ by omega) (show 0x80 ≤ _ by omega)
    have hhigh : c.toNat / 4096 % 64 + 128
        ≤ (if c.toNat / 262144 = 4 then 0x8f else 0xbf : UInt8).toNat :=
      le_toNat_ite (fun hk => show _ ≤ 0x8f by omega) (show _ ≤ 0xbf by omega)
    have hvalue : ((c.toNat / 262144 * 64 + c.toNat / 4096 % 64) * 64 + c.toNat / 64 % 64) * 64
        + c.toNat % 64 = c.toNat := by
      omega
    rw [hbytes]
    show scan none (_ :: _ :: _ :: _ :: rest) = _
    rw [scan_lead hb hlead, scan_next (by omega) rfl hlow hhigh,
      scan_next (by omega) rfl (by simp) (by simp; omega),
      scan_last (by omega) rfl (by simp) (by simp; omega), hvalue, Char.ofNat_toNat]

theorem pieces_encode (t : Text) : pieces (encode t) = t.map Piece.char := by
  unfold pieces
  induction t with
  | nil => rfl
  | cons c t ih =>
      have hencode : encode (c :: t) = String.utf8EncodeChar c ++ encode t := rfl
      rw [hencode, scan_utf8EncodeChar, ih, List.map_cons]

/-- **Lossy decoding gives back a text that was encoded.** -/
theorem decodeLossy_encode (t : Text) : decodeLossy (encode t) = t := by
  unfold decodeLossy
  rw [pieces_encode, List.map_map]
  exact List.map_id t

theorem isValid_iff {b : Bytes} : isValid b = true ↔ ∃ t, encode t = b := by
  rw [isValid, Option.isSome_iff_exists]
  simp only [decode?_eq_some_iff]

/-- **Decoding and encoding again changes nothing exactly if the bytes encode a text.** -/
theorem encode_decodeLossy_iff {b : Bytes} : encode (decodeLossy b) = b ↔ ∃ t, encode t = b := by
  constructor
  · intro h
    exact ⟨decodeLossy b, h⟩
  · rintro ⟨t, rfl⟩
    rw [decodeLossy_encode]

/-! ## Texts in a row -/

theorem encode_append (s t : Text) : encode (s ++ t) = encode s ++ encode t :=
  List.flatMap_append

theorem encode_intercalate (separator : Text) (ts : List Text) :
    encode (separator.intercalate ts) = (encode separator).intercalate (ts.map encode) := by
  induction ts with
  | nil => rfl
  | cons t ts ih =>
      cases ts with
      | nil => rw [List.intercalate_singleton, List.map_singleton, List.intercalate_singleton]
      | cons t' ts =>
          rw [List.intercalate_cons_cons, encode_append, encode_append, ih, List.map_cons,
            List.map_cons, List.map_cons, List.intercalate_cons_cons]

/-! ## Bytes that stand for themselves -/

/-- A byte is a code point. -/
theorem toNat_ofNat_byte (b : UInt8) : (Char.ofNat b.toNat).toNat = b.toNat := by
  have hvalid : b.toNat.isValidChar := Or.inl (Nat.lt_trans b.toNat_lt (by decide))
  rw [Char.ofNat, dif_pos hvalid]
  rfl

/-- The bytes of a longer character are none of these. -/
theorem le_of_mem_utf8EncodeChar {c : Char} (hc : 0x80 ≤ c.toNat) {b : UInt8}
    (hb : b ∈ String.utf8EncodeChar c) : 0x80 ≤ b.toNat := by
  have hnext : ∀ n, 0x80 ≤ (continuation (n % 64)).toNat := by
    intro n
    rw [toNat_continuation (Nat.mod_lt n (by decide))]
    omega
  rcases utf8EncodeChar_cases c with ⟨h, hbytes⟩ | ⟨h, h', hbytes⟩ | ⟨h, h', hbytes⟩ | ⟨h, hbytes⟩
  · omega
  · rw [hbytes] at hb
    simp only [List.mem_cons, List.not_mem_nil, or_false] at hb
    rcases hb with rfl | rfl
    · exact UInt8.le_iff_toNat_le.mp (lead?_two (c.toNat / 64) (by omega) (by omega)).1
    · exact hnext _
  · rw [hbytes] at hb
    simp only [List.mem_cons, List.not_mem_nil, or_false] at hb
    rcases hb with rfl | rfl | rfl
    · exact UInt8.le_iff_toNat_le.mp (lead?_three (c.toNat / 4096) (by omega)).1
    · exact hnext _
    · exact hnext _
  · have hvalid := toNat_valid c
    rw [hbytes] at hb
    simp only [List.mem_cons, List.not_mem_nil, or_false] at hb
    rcases hb with rfl | rfl | rfl | rfl
    · exact UInt8.le_iff_toNat_le.mp (lead?_four (c.toNat / 262144) (by omega)).1
    · exact hnext _
    · exact hnext _
    · exact hnext _

theorem encode_cons_of_ascii {c : Char} (h : c.toNat < 0x80) (t : Text) :
    encode (c :: t) = UInt8.ofNat c.toNat :: encode t := by
  rw [encode, List.flatMap_cons, utf8EncodeChar_of_ascii h]
  rfl

/-- ASCII characters are one byte each. -/
theorem length_encode_of_ascii {t : Text} (h : ∀ c ∈ t, c.toNat < 0x80) :
    (encode t).length = t.length := by
  induction t with
  | nil => rfl
  | cons c t ih =>
      obtain ⟨hc, ht⟩ := List.forall_mem_cons.mp h
      rw [encode_cons_of_ascii hc, List.length_cons, List.length_cons, ih ht]

/-- A text whose bytes are all ASCII has these for its characters. -/
theorem eq_chars_of_ascii {t : Text} (hascii : ∀ b ∈ encode t, b.toNat < 0x80) :
    (encode t).map (fun b => Char.ofNat b.toNat) = t := by
  induction t with
  | nil => rfl
  | cons c t ih =>
      have hencode : encode (c :: t) = String.utf8EncodeChar c ++ encode t := rfl
      rw [hencode, List.forall_mem_append] at hascii
      obtain ⟨hc, ht⟩ := hascii
      have hlt : c.toNat < 0x80 := by
        refine Nat.lt_of_not_le fun hlong => ?_
        -- a longer character has other bytes, and at least one
        have hne : String.utf8EncodeChar c ≠ [] := by
          rw [← List.length_pos_iff, String.length_utf8EncodeChar]
          exact c.utf8Size_pos
        obtain ⟨b, hb⟩ := List.exists_mem_of_ne_nil _ hne
        have hle := le_of_mem_utf8EncodeChar hlong hb
        have hb' := hc b hb
        omega
      rw [hencode, utf8EncodeChar_of_ascii hlt, List.map_append, ih ht, List.map_singleton,
        toNat_ofNat_of_ascii hlt, Char.ofNat_toNat]
      rfl

/-- **An ASCII character is in a text if its byte is in the bytes of the text.** -/
theorem mem_encode_iff {t : Text} {d : Char} (hd : d.toNat < 0x80) :
    UInt8.ofNat d.toNat ∈ encode t ↔ d ∈ t := by
  have hnat := toNat_ofNat_of_ascii hd
  unfold encode
  rw [List.mem_flatMap]
  constructor
  · intro h
    obtain ⟨c, hc, hb⟩ := h
    -- only a character of one byte has an ASCII byte, and it is that character
    by_cases hlong : 0x80 ≤ c.toNat
    · have hle := le_of_mem_utf8EncodeChar hlong hb
      omega
    · have hascii : c.toNat < 0x80 := Nat.lt_of_not_le hlong
      rw [utf8EncodeChar_of_ascii hascii, List.mem_singleton] at hb
      have heq := congrArg UInt8.toNat hb
      rw [hnat, toNat_ofNat_of_ascii hascii] at heq
      rwa [Char.toNat_inj.mp heq]
  · intro h
    refine ⟨d, h, ?_⟩
    rw [utf8EncodeChar_of_ascii hd]
    exact List.mem_singleton_self _

end DecoderKit.Utf8
