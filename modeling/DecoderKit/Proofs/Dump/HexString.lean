import DecoderKit.Dump.HexString
import DecoderKit.Proofs.Text.Hexadecimal
import DecoderKit.Proofs.Text.Utf8

/-!
# Which texts are contiguous hexadecimal

The reader trims a text and has its bytes decoded. Of the decoder it is known in which order it
looks at them (`HexDecoder.IsPairwise`), and that decides what is read. `Spells` says what is
accepted: digits, two for each byte, and so an even number of them. `Flaw` says where the others
are refused, by the number of a pair: an odd number of bytes at the one that is left over, whatever
the bytes are, and an even number at the first that is no digit, which the decoder counts in bytes.

Characters that are not ASCII count by their bytes. None of these is a digit, so what is
accepted is ASCII, and its bytes are its characters (`eq_chars_of_ascii`). That is why
writing the bytes again gives the text back, up to the case of its letters.
-/

namespace DecoderKit.Dump

open Numeral (IsHexDigit hexByte)

/-- The byte is the ASCII character of a hexadecimal digit of this value. -/
def IsHexByte (b : UInt8) (d : Nat) : Prop := IsHexDigit (Char.ofNat b.toNat) d

instance (b : UInt8) (d : Nat) : Decidable (IsHexByte b d) :=
  inferInstanceAs (Decidable (IsHexDigit _ _))

/-- The byte is the ASCII character of a hexadecimal digit. -/
def IsDigitByte (b : UInt8) : Prop := ∃ d, IsHexByte b d

instance (b : UInt8) : Decidable (IsDigitByte b) :=
  decidable_of_iff (∃ d < 16, IsHexByte b d)
    ⟨fun ⟨d, _, hd⟩ => ⟨d, hd⟩, fun ⟨d, hd⟩ => ⟨d, hd.1, hd⟩⟩

/-- The digits spell the bytes, the higher digit of each first. -/
inductive Spells : Bytes → Bytes → Prop where
  | nil : Spells [] []
  | pair {high low : UInt8} {h l : Nat} {digits bytes : Bytes} :
      IsHexByte high h → IsHexByte low l → Spells digits bytes →
      Spells (high :: low :: digits) (UInt8.ofNat (16 * h + l) :: bytes)

/-- The first byte that is no digit has this number. Bytes count from zero. -/
def FirstStray (digits : Bytes) (k : Nat) : Prop :=
  ∃ before b after, digits = before ++ b :: after ∧ (∀ x ∈ before, IsDigitByte x)
    ∧ ¬ IsDigitByte b ∧ k = before.length

/-- The pair of this number spoils the digits. -/
inductive Flaw (digits : Bytes) : Nat → Prop where
  /-- The last byte has no second one. -/
  | odd : digits.length % 2 = 1 → Flaw digits (digits.length / 2)
  | stray {k : Nat} : digits.length % 2 = 0 → FirstStray digits k → Flaw digits (k / 2)

/-- A decoder asks for an even number of digits first. Then it goes through them from the left: it
refuses the first byte that is none, and if there is none it gives the bytes of the pairs. -/
structure HexDecoder.IsPairwise (decoder : HexDecoder) : Prop where
  odd : ∀ digits, digits.length % 2 = 1 → decoder digits = .error .odd
  stray : ∀ digits k, digits.length % 2 = 0 → FirstStray digits k →
    ∃ c, decoder digits = .error (.stray c k)
  spelled : ∀ digits bytes, Spells digits bytes → decoder digits = .ok bytes

/-- The bytes of a text between its outer blanks. -/
def digitsOf (t : Text) : Bytes := Utf8.encode (Text.trim t)

/-- Bytes as contiguous digits in lower case. -/
def toHex (bytes : Bytes) : Text := bytes.flatMap fun b => hexByte b.toNat

variable {high low : UInt8} {h l : Nat} {digits bytes : Bytes} {t : Text} {decoder : HexDecoder}

/-! ## Spelled bytes -/

theorem toNat_pair (hh : IsHexByte high h) (hl : IsHexByte low l) :
    (UInt8.ofNat (16 * h + l)).toNat = 16 * h + l := by
  have hh' := hh.1
  have hl' := hl.1
  exact UInt8.toNat_ofNat_of_lt (show 16 * h + l < 256 by omega)

theorem Spells.length (hs : Spells digits bytes) : digits.length = 2 * bytes.length := by
  induction hs with
  | nil => rfl
  | pair _ _ _ ih =>
      rw [List.length_cons, List.length_cons, List.length_cons]
      omega

theorem Spells.isDigitByte (hs : Spells digits bytes) : ∀ b ∈ digits, IsDigitByte b := by
  induction hs with
  | nil => exact List.forall_mem_nil _
  | pair hh hl _ ih =>
      exact List.forall_mem_cons.mpr ⟨⟨_, hh⟩, List.forall_mem_cons.mpr ⟨⟨_, hl⟩, ih⟩⟩

/-- Each byte is spelled by the two digits at twice its place. -/
theorem Spells.getElem? (hs : Spells digits bytes) {i : Nat} {b : UInt8}
    (hb : bytes[i]? = some b) : ∃ high low h l, digits[2 * i]? = some high
      ∧ digits[2 * i + 1]? = some low ∧ IsHexByte high h ∧ IsHexByte low l
      ∧ b.toNat = 16 * h + l := by
  induction hs generalizing i with
  | nil => exact absurd hb (by simp)
  | @pair high low h l digits bytes hh hl _ ih =>
      cases i with
      | zero =>
          rw [List.getElem?_cons_zero, Option.some.injEq] at hb
          exact ⟨high, low, h, l, rfl, rfl, hh, hl, by rw [← hb, toNat_pair hh hl]⟩
      | succ i =>
          rw [List.getElem?_cons_succ] at hb
          exact ih hb

/-- A pair in front changes nothing about whether a list goes up in pairs. -/
theorem length_pair_mod_two {α : Type} (a b : α) (l : List α) :
    (a :: b :: l).length % 2 = l.length % 2 :=
  Nat.add_mod_right l.length 2

/-- Digits in pairs spell some bytes. -/
theorem exists_spells : ∀ {digits : Bytes}, digits.length % 2 = 0 →
    (∀ b ∈ digits, IsDigitByte b) → ∃ bytes, Spells digits bytes
  | [], _, _ => ⟨[], .nil⟩
  | [_], heven, _ => absurd heven (by simp)
  | high :: low :: rest, heven, hall => by
      obtain ⟨⟨h, hh⟩, hrest⟩ := List.forall_mem_cons.mp hall
      obtain ⟨⟨l, hl⟩, hrest⟩ := List.forall_mem_cons.mp hrest
      rw [length_pair_mod_two] at heven
      obtain ⟨bytes, hbytes⟩ := exists_spells heven hrest
      exact ⟨_, .pair hh hl hbytes⟩

theorem exists_spells_iff :
    (∃ bytes, Spells digits bytes) ↔ digits.length % 2 = 0 ∧ ∀ b ∈ digits, IsDigitByte b := by
  constructor
  · rintro ⟨bytes, hs⟩
    have hlength := hs.length
    exact ⟨by omega, hs.isDigitByte⟩
  · rintro ⟨heven, hall⟩
    exact exists_spells heven hall

/-! ## Writing the bytes again -/

/-- Two digits are written of a byte. -/
theorem hexByte_pair (hh : h < 16) (hl : l < 16) :
    hexByte (16 * h + l) = [h.digitChar, l.digitChar] := by
  rw [Numeral.hexByte_eq]
  -- a zero in front is written only to fill the pair
  by_cases hzero : h = 0
  · rw [hzero, if_pos (by omega)]
    simp
  · rw [if_neg (by omega), ← Nat.toDigits_append_toDigits (by decide) (by omega) hl,
      Nat.toDigits_of_lt_base hh, Nat.toDigits_of_lt_base hl]
    rfl

theorem toLower_hexDigit {c : Char} {d : Nat} (hd : IsHexDigit c d) : c.toLower = d.digitChar := by
  have hall : ∀ d < 16, d.digitChar.toLower = d.digitChar
      ∧ d.digitChar.toUpper.toLower = d.digitChar := by decide
  obtain ⟨hlt, rfl | rfl⟩ := hd
  · exact (hall d hlt).1
  · exact (hall d hlt).2

theorem Spells.toHex_eq (hs : Spells digits bytes) :
    toHex bytes = digits.map fun b => (Char.ofNat b.toNat).toLower := by
  induction hs with
  | nil => rfl
  | pair hh hl _ ih =>
      rw [toHex, List.flatMap_cons, ← toHex, ih, toNat_pair hh hl, hexByte_pair hh.1 hl.1,
        List.map_cons, List.map_cons, toLower_hexDigit hh, toLower_hexDigit hl]
      rfl

theorem toNat_lt_of_isDigitByte {b : UInt8} (hb : IsDigitByte b) : b.toNat < 0x80 := by
  obtain ⟨d, hd⟩ := hb
  have hchar := Numeral.toNat_lt_of_digit? (Numeral.digit?_sixteen_eq_some_iff.mpr hd)
  rwa [Utf8.toNat_ofNat_byte] at hchar

theorem Spells.ascii (hs : Spells digits bytes) : ∀ b ∈ digits, b.toNat < 0x80 :=
  fun b hb => toNat_lt_of_isDigitByte (hs.isDigitByte b hb)

/-- **Bytes that have been read are written as the text was, in lower case.** -/
theorem Spells.toHex_eq_toLower (hs : Spells (Utf8.encode t) bytes) :
    toHex bytes = t.map Char.toLower := by
  rw [hs.toHex_eq]
  conv => rhs; rw [← Utf8.eq_chars_of_ascii hs.ascii, List.map_map]
  rfl

/-! ## The first byte that is no digit -/

theorem firstStray_cons_iff {b : UInt8} {k : Nat} : FirstStray (b :: digits) k
    ↔ ¬ IsDigitByte b ∧ k = 0 ∨ IsDigitByte b ∧ ∃ n, FirstStray digits n ∧ k = n + 1 := by
  constructor
  · -- the stray byte is this one, or one of those behind a digit
    rintro ⟨before, x, after, hdigits, hbefore, hx, rfl⟩
    cases before with
    | nil =>
        obtain ⟨rfl, rfl⟩ := List.cons.inj hdigits
        exact Or.inl ⟨hx, rfl⟩
    | cons y before =>
        obtain ⟨rfl, rfl⟩ := List.cons.inj hdigits
        obtain ⟨hb, hbefore⟩ := List.forall_mem_cons.mp hbefore
        exact Or.inr ⟨hb, _, ⟨before, x, after, rfl, hbefore, hx, rfl⟩, rfl⟩
  · rintro (⟨hb, rfl⟩ | ⟨hb, n, ⟨before, x, after, rfl, hbefore, hx, rfl⟩, rfl⟩)
    · exact ⟨[], b, digits, rfl, List.forall_mem_nil _, hb, rfl⟩
    · exact ⟨b :: before, x, after, rfl, List.forall_mem_cons.mpr ⟨hb, hbefore⟩, hx, rfl⟩

/-- Bytes are all digits, or there is a first one that is none. -/
theorem digits_or_firstStray (digits : Bytes) :
    (∀ b ∈ digits, IsDigitByte b) ∨ ∃ k, FirstStray digits k := by
  induction digits with
  | nil => exact Or.inl (List.forall_mem_nil _)
  | cons b digits ih =>
      by_cases hb : IsDigitByte b
      · rcases ih with hall | ⟨k, hstray⟩
        · exact Or.inl (List.forall_mem_cons.mpr ⟨hb, hall⟩)
        · exact Or.inr ⟨_, firstStray_cons_iff.mpr (Or.inr ⟨hb, k, hstray, rfl⟩)⟩
      · exact Or.inr ⟨0, firstStray_cons_iff.mpr (Or.inl ⟨hb, rfl⟩)⟩

/-! ## Reading a text -/

theorem readHexWith_of_spells (hd : decoder.IsPairwise) (hs : Spells (digitsOf t) bytes) :
    readHexWith decoder t = .ok bytes := by
  have hdecoded := hd.spelled _ _ hs
  rw [digitsOf] at hdecoded
  simp only [readHexWith, hdecoded]

theorem readHexWith_of_flaw (hd : decoder.IsPairwise) {index : Nat}
    (hflaw : Flaw (digitsOf t) index) :
    readHexWith decoder t = .error (.malformedByte index (Text.trim t)) := by
  rw [digitsOf] at hflaw
  cases hflaw with
  | odd hodd =>
      have hrefused := hd.odd _ hodd
      simp only [readHexWith, hrefused, HexError.pair]
  | stray heven hstray =>
      -- the decoder says which byte it is, and half of that is the pair
      obtain ⟨c, hrefused⟩ := hd.stray _ _ heven hstray
      simp only [readHexWith, hrefused, HexError.pair]

/-- What does not spell bytes has a flaw. -/
theorem spells_or_flaw (digits : Bytes) :
    (∃ bytes, Spells digits bytes) ∨ ∃ index, Flaw digits index := by
  -- the length decides first, and only then the bytes do
  rcases Nat.mod_two_eq_zero_or_one digits.length with heven | hodd
  · rcases digits_or_firstStray digits with hall | ⟨k, hstray⟩
    · exact Or.inl (exists_spells heven hall)
    · exact Or.inr ⟨_, .stray heven hstray⟩
  · exact Or.inr ⟨_, .odd hodd⟩

/-- **A text is accepted when it spells bytes, and then as these.** -/
theorem readHexWith_eq_ok_iff (hd : decoder.IsPairwise) :
    readHexWith decoder t = .ok bytes ↔ Spells (digitsOf t) bytes := by
  refine ⟨fun hread => ?_, readHexWith_of_spells hd⟩
  -- a text that does not spell these bytes spells others, or it is refused
  rcases spells_or_flaw (digitsOf t) with ⟨bytes', hs⟩ | ⟨index, hflaw⟩
  · rw [readHexWith_of_spells hd hs] at hread
    rwa [← Except.ok.inj hread]
  · rw [readHexWith_of_flaw hd hflaw] at hread
    exact absurd hread (by simp)

/-- **A text is refused for its flaw.** -/
theorem readHexWith_eq_error_iff (hd : decoder.IsPairwise) {fault : Fault} :
    readHexWith decoder t = .error fault
      ↔ ∃ index, Flaw (digitsOf t) index ∧ fault = .malformedByte index (Text.trim t) := by
  constructor
  · intro hread
    rcases spells_or_flaw (digitsOf t) with ⟨bytes, hs⟩ | ⟨index, hflaw⟩
    · rw [readHexWith_of_spells hd hs] at hread
      exact absurd hread (by simp)
    · rw [readHexWith_of_flaw hd hflaw] at hread
      exact ⟨index, hflaw, (Except.error.inj hread).symm⟩
  · rintro ⟨index, hflaw, rfl⟩
    exact readHexWith_of_flaw hd hflaw

/-- Whatever the decoder, a fault is about a pair and quotes the whole text. -/
theorem malformedByte_of_readHexWith {fault : Fault} (h : readHexWith decoder t = .error fault) :
    ∃ index, fault = .malformedByte index (Text.trim t) := by
  rw [readHexWith] at h
  cases hdecoded : decoder (Utf8.encode (Text.trim t)) with
  | ok bytes =>
      rw [hdecoded] at h
      exact absurd h (by simp)
  | error error =>
      rw [hdecoded] at h
      exact ⟨_, (Except.error.inj h).symm⟩

/-- A flaw is in one of the pairs, of which the last may lack a byte. -/
theorem Flaw.lt {index : Nat} (hflaw : Flaw digits index) : index < (digits.length + 1) / 2 := by
  cases hflaw with
  | odd hodd => omega
  | stray heven hstray =>
      -- the stray byte is one of the digits, so half its number is below half of theirs
      obtain ⟨before, b, after, rfl, _, _, rfl⟩ := hstray
      rw [List.length_append, List.length_cons] at heven ⊢
      omega

/-! ## The decoder that goes through the pairs -/

theorem hexDigit?_eq_some_iff {b : UInt8} {d : Nat} : hexDigit? b = some d ↔ IsHexByte b d :=
  Numeral.digit?_sixteen_eq_some_iff

theorem hexDigit?_eq_none_iff {b : UInt8} : hexDigit? b = none ↔ ¬ IsDigitByte b := by
  rw [Option.eq_none_iff_forall_ne_some, IsDigitByte, not_exists]
  exact forall_congr' fun d => not_congr hexDigit?_eq_some_iff

theorem readPairs_pair (hh : IsHexByte high h) (hl : IsHexByte low l) (n : Nat) (rest : Bytes) :
    readPairs n (high :: low :: rest)
      = (readPairs (n + 2) rest).map (UInt8.ofNat (16 * h + l) :: ·) := by
  rw [readPairs, hexDigit?_eq_some_iff.mpr hh, hexDigit?_eq_some_iff.mpr hl]

theorem readPairs_of_spells (hs : Spells digits bytes) (n : Nat) :
    readPairs n digits = .ok bytes := by
  induction hs generalizing n with
  | nil => rfl
  | pair hh hl _ ih =>
      rw [readPairs_pair hh hl, ih]
      rfl

/-- The first byte that is no digit is refused, with the number of bytes before it. -/
theorem readPairs_of_stray {b : UInt8} {after : Bytes} (hb : ¬ IsDigitByte b) (n : Nat) :
    ∀ before : Bytes, (before ++ b :: after).length % 2 = 0 → (∀ x ∈ before, IsDigitByte x) →
      readPairs n (before ++ b :: after)
        = .error (.stray (Char.ofNat b.toNat) (n + before.length))
  -- it is the first of a pair, or the second, or it stands behind a pair
  | [], heven, _ => by
      cases after with
      | nil => exact absurd heven (by simp)
      | cons low rest =>
          rw [List.nil_append, readPairs, hexDigit?_eq_none_iff.mpr hb]
          rfl
  | [high], _, hbefore => by
      obtain ⟨h, hh⟩ := List.forall_mem_singleton.mp hbefore
      rw [List.singleton_append, readPairs, hexDigit?_eq_some_iff.mpr hh,
        hexDigit?_eq_none_iff.mpr hb]
      rfl
  | high :: low :: before, heven, hbefore => by
      obtain ⟨⟨h, hh⟩, hrest⟩ := List.forall_mem_cons.mp hbefore
      obtain ⟨⟨l, hl⟩, hrest⟩ := List.forall_mem_cons.mp hrest
      -- the pair in front leaves an even number of bytes, two further on
      rw [List.cons_append, List.cons_append, length_pair_mod_two] at heven
      have hcount : n + 2 + before.length = n + (before.length + 1 + 1) := by omega
      rw [List.cons_append, List.cons_append, readPairs_pair hh hl,
        readPairs_of_stray hb (n + 2) before heven hrest, hcount]
      rfl

/-- The decoder goes through the digits in the order that readers rely on. -/
theorem hexDecoder_isPairwise : hexDecoder.IsPairwise where
  odd digits hodd := if_pos hodd
  stray digits k heven hstray := by
    obtain ⟨before, b, after, rfl, hbefore, hb, rfl⟩ := hstray
    refine ⟨Char.ofNat b.toNat, ?_⟩
    rw [hexDecoder, if_neg (by omega), readPairs_of_stray hb 0 before heven hbefore, Nat.zero_add]
  spelled digits bytes hs := by
    have hlength := hs.length
    rw [hexDecoder, if_neg (by omega), readPairs_of_spells hs]

/-- **A text is read as contiguous hexadecimal when the bytes between its blanks are an even number
of digits.** Two digits make a byte, and writing the bytes again gives the text in lower case. Any
other text is refused at a pair that it has. An odd number of bytes is reported before anything
else, at the one left over, and an even number at the pair of the first byte that is no digit. -/
theorem readHex_exact (hd : decoder.IsPairwise) (t : Text) :
    ((∃ bytes, readHexWith decoder t = .ok bytes)
        ↔ (digitsOf t).length % 2 = 0 ∧ ∀ b ∈ digitsOf t, IsDigitByte b)
      ∧ (∀ bytes, readHexWith decoder t = .ok bytes → bytes.length = (digitsOf t).length / 2
        ∧ (∀ i b, bytes[i]? = some b → ∃ high low h l, (digitsOf t)[2 * i]? = some high
          ∧ (digitsOf t)[2 * i + 1]? = some low ∧ IsHexByte high h ∧ IsHexByte low l
          ∧ b.toNat = 16 * h + l)
        ∧ toHex bytes = (Text.trim t).map Char.toLower)
      ∧ (∀ fault, readHexWith decoder t = .error fault ↔
        (digitsOf t).length % 2 = 1
            ∧ fault = .malformedByte ((digitsOf t).length / 2) (Text.trim t)
          ∨ (digitsOf t).length % 2 = 0
            ∧ ∃ k, FirstStray (digitsOf t) k ∧ fault = .malformedByte (k / 2) (Text.trim t))
      ∧ ∀ index token, readHexWith decoder t = .error (.malformedByte index token) →
        index < ((digitsOf t).length + 1) / 2 := by
  refine ⟨?_, fun bytes hread => ?_, fun fault => ?_, fun index token hread => ?_⟩
  · simp only [readHexWith_eq_ok_iff hd]
    exact exists_spells_iff
  · have hs := (readHexWith_eq_ok_iff hd).mp hread
    have hlength := hs.length
    exact ⟨by omega, fun i b hb => hs.getElem? hb, hs.toHex_eq_toLower⟩
  · rw [readHexWith_eq_error_iff hd]
    constructor
    · rintro ⟨index, hflaw, rfl⟩
      cases hflaw with
      | odd hodd => exact Or.inl ⟨hodd, rfl⟩
      | stray heven hstray => exact Or.inr ⟨heven, _, hstray, rfl⟩
    · rintro (⟨hodd, hfault⟩ | ⟨heven, k, hstray, hfault⟩)
      · exact ⟨_, .odd hodd, hfault⟩
      · exact ⟨_, .stray heven hstray, hfault⟩
  · obtain ⟨index', hflaw, hfault⟩ := (readHexWith_eq_error_iff hd).mp hread
    rw [(Fault.malformedByte.inj hfault).1]
    exact hflaw.lt

/-- Digits of both cases between blanks. And letters of two bytes, in a text with one byte too few,
and in one where the pair of the letter is reported. -/
theorem readHex_exact_mixed :
    hexDecoder.IsPairwise
      ∧ (∃ bytes, readHexWith hexDecoder " 5aFF\n".toList = .ok bytes ∧ bytes.length = 2
        ∧ toHex bytes = "5aff".toList)
      ∧ readHexWith hexDecoder " 5gé5\n".toList = .error (.malformedByte 2 "5gé5".toList)
      ∧ readHexWith hexDecoder "54é95".toList = .error (.malformedByte 1 "54é95".toList) := by
  have hd := hexDecoder_isPairwise
  obtain ⟨haccepted, hbytes, _⟩ := readHex_exact hd " 5aFF\n".toList
  obtain ⟨_, _, hodd, _⟩ := readHex_exact hd " 5gé5\n".toList
  obtain ⟨_, _, hstray, _⟩ := readHex_exact hd "54é95".toList
  obtain ⟨bytes, hread⟩ := haccepted.mpr ⟨by decide +kernel, by decide +kernel⟩
  obtain ⟨hlength, _, hwritten⟩ := hbytes bytes hread
  have hfirst : FirstStray (digitsOf "54é95".toList) 2 :=
    ⟨[0x35, 0x34], 0xc3, [0xa9, 0x39, 0x35], by decide +kernel, by decide +kernel,
      by decide +kernel, rfl⟩
  refine ⟨hd, ⟨bytes, hread, hlength, hwritten⟩, (hodd _).mpr (Or.inl ⟨?_, ?_⟩),
    (hstray _).mpr (Or.inr ⟨?_, 2, hfirst, ?_⟩)⟩
  · decide +kernel
  · decide +kernel
  · decide +kernel
  · decide +kernel

end DecoderKit.Dump
