import DecoderKit.Proofs.Command.DumpRun
import DecoderKit.Proofs.Dump.HexString
import DecoderKit.Proofs.Dump.Joining

/-!
# One dump in two spellings

Bytes are copied as contiguous digits or as a list, and the pairs of the digits are the
items of such a list (`ListsPairs`). The two readers have little in common. One halves the
positions of bytes, the other counts items, and each has its own idea of a digit, a sign and
a prefix. On letters and digits of ASCII they still come to the same: the same bytes, or the
same pair refused (`Agree`).

The step is one pair against one item (`isByte_marked_iff`). What spoils the one spoils the
other, also where the pair looks like the marker of an item.
-/

namespace DecoderKit.Dump

open Numeral (IsHexDigit)
open Command

/-- The pairs of contiguous digits as items of a list, each behind its marker. -/
def markedPairs : Text → List Text
  | a :: b :: rest => ['0', 'x', a, b] :: markedPairs rest
  | _ => []

/-- The text is a list of the pairs of these digits: any separators stand between its items and
around them, and any blanks and at most one bracket on each side around the whole. -/
def ListsPairs (t digits : Text) : Prop :=
  ∃ list, Wraps t list ∧ Spaced isSeparator list (markedPairs digits)

/-- Two readings give the same bytes, or refuse the byte of the same number. -/
inductive Agree : Except Fault Bytes → Except Fault Bytes → Prop where
  | read (bytes : Bytes) : Agree (.ok bytes) (.ok bytes)
  | refused (index : Nat) (token token' : Text) :
      Agree (.error (.malformedByte index token)) (.error (.malformedByte index token'))

variable {a b c : Char} {t : Text} {bytes : Bytes} {decoder : HexDecoder}
  {read read' : Except Fault Bytes} {fault fault' : Fault}

/-! ## Readings that agree -/

theorem Agree.ok_iff (h : Agree read read') : read = .ok bytes ↔ read' = .ok bytes := by
  cases h with
  | read bytes' => exact Iff.rfl
  | refused index token token' => simp

theorem Agree.exists_index (h : Agree read read') (hread : read = .error fault)
    (hread' : read' = .error fault') : ∃ index token token',
      fault = .malformedByte index token ∧ fault' = .malformedByte index token' := by
  cases h with
  | read bytes => exact absurd hread (by simp)
  | refused index token token' =>
      exact ⟨index, token, token', (Except.error.inj hread).symm, (Except.error.inj hread').symm⟩

/-! ## Letters and digits -/

theorem toNat_lt_of_isAlphanum (h : c.isAlphanum = true) : c.toNat < 0x80 := by
  have hval : c.val.toNat = c.toNat := rfl
  unfold Char.isAlphanum Char.isAlpha Char.isUpper Char.isLower Char.isDigit at h
  simp only [Bool.or_eq_true, Bool.and_eq_true, decide_eq_true_eq, ge_iff_le,
    UInt32.le_iff_toNat_le, hval] at h
  have h9 : '9'.val.toNat = 57 := rfl
  have hz : 'z'.val.toNat = 122 := rfl
  have hZ : 'Z'.val.toNat = 90 := rfl
  omega

/-- Letters and digits have no part in the layout of a list or in the sign of a numeral. -/
theorem not_layout_of_isAlphanum (h : c.isAlphanum = true) :
    isSeparator c = false ∧ c ≠ '+' ∧ c ≠ '[' ∧ c ≠ ']' := by
  -- there are only so many characters in ASCII
  have hascii : ∀ n < 128, (Char.ofNat n).isAlphanum = true → isSeparator (Char.ofNat n) = false
      ∧ Char.ofNat n ≠ '+' ∧ Char.ofNat n ≠ '[' ∧ Char.ofNat n ≠ ']' := by decide +kernel
  have hc := hascii c.toNat (toNat_lt_of_isAlphanum h)
  rw [Char.ofNat_toNat] at hc
  exact hc h

theorem isAlphanum_of_isHexDigit {d : Nat} (h : IsHexDigit c d) : c.isAlphanum = true := by
  have hall : ∀ d < 16, d.digitChar.isAlphanum = true ∧ d.digitChar.toUpper.isAlphanum = true := by
    decide
  obtain ⟨hlt, rfl | rfl⟩ := h
  · exact (hall d hlt).1
  · exact (hall d hlt).2

theorem isHexByte_ofNat_iff (hc : c.toNat < 0x80) {d : Nat} :
    IsHexByte (UInt8.ofNat c.toNat) d ↔ IsHexDigit c d := by
  rw [IsHexByte, Utf8.toNat_ofNat_of_ascii hc, Char.ofNat_toNat]

/-- There is nothing to trim of letters and digits. -/
theorem trim_of_isAlphanum (h : ∀ c ∈ t, c.isAlphanum = true) : Text.trim t = t := by
  have hblank : ∀ c ∈ t, Text.isBlank c = false := by
    intro c hc
    have hno := (not_layout_of_isAlphanum (h c hc)).1
    rw [isSeparator, Bool.or_eq_false_iff] at hno
    exact hno.2
  have hstart : t.dropWhile Text.isBlank = t :=
    dropWhile_eq_self fun c hc => hblank c (List.mem_of_mem_head? hc)
  have hend : t.reverse.dropWhile Text.isBlank = t.reverse := by
    refine dropWhile_eq_self fun c hc => ?_
    rw [List.head?_reverse] at hc
    exact hblank c (List.mem_of_getLast? hc)
  rw [Text.trim, Text.trimStart, hstart, Text.trimEnd, hend, List.reverse_reverse]

/-! ## The items of a list of pairs -/

theorem exists_of_mem_markedPairs : ∀ {digits item : Text}, item ∈ markedPairs digits →
    ∃ a b, item = ['0', 'x', a, b] ∧ a ∈ digits ∧ b ∈ digits
  | a :: b :: rest, item, h => by
      rcases List.mem_cons.mp h with rfl | h
      · exact ⟨a, b, rfl, by simp, by simp⟩
      · obtain ⟨a', b', hitem, ha, hb⟩ := exists_of_mem_markedPairs h
        exact ⟨a', b', hitem, by simp [ha], by simp [hb]⟩

theorem isAlphanum_of_mem_markedPairs {digits item : Text} (h : ∀ c ∈ digits, c.isAlphanum = true)
    (hitem : item ∈ markedPairs digits) : item ≠ [] ∧ ∀ c ∈ item, c.isAlphanum = true := by
  obtain ⟨a, b, rfl, ha, hb⟩ := exists_of_mem_markedPairs hitem
  refine ⟨by simp, fun c hc => ?_⟩
  simp only [List.mem_cons, List.not_mem_nil, or_false] at hc
  rcases hc with rfl | rfl | rfl | rfl
  · decide
  · decide
  · exact h _ ha
  · exact h _ hb

/-- **The items of a list of pairs are these pairs.** -/
theorem items_of_listsPairs {digits : Text} (h : ∀ c ∈ digits, c.isAlphanum = true)
    (hlists : ListsPairs t digits) : items t = markedPairs digits := by
  obtain ⟨list, hwraps, hspaced⟩ := hlists
  have hchars : ∀ c ∈ list, isSeparator c = true ∨ c.isAlphanum = true := by
    intro c hc
    rcases hspaced.separator_or_mem c hc with hsep | ⟨item, hitem, hmem⟩
    · exact Or.inl hsep
    · exact Or.inr ((isAlphanum_of_mem_markedPairs h hitem).2 c hmem)
  have hnot : ∀ c : Char, isSeparator c = false → c.isAlphanum = false → c ∉ list := by
    intro c hsep halnum hmem
    rcases hchars c hmem with hc | hc
    · exact absurd hc (by simp [hsep])
    · exact absurd hc (by simp [halnum])
  -- a list of letters, digits and separators has no bracket for a reader to take off
  have hfree : BracketFree list :=
    ⟨hnot '[' (by decide) (by decide), hnot ']' (by decide) (by decide)⟩
  rw [items_of_wraps hfree hwraps]
  exact piecesBetween_eq_iff.mpr hspaced

/-- Every text of letters and digits has a list of its pairs. -/
theorem exists_listsPairs {digits : Text} (h : ∀ c ∈ digits, c.isAlphanum = true) :
    ∃ t, ListsPairs t digits := by
  refine ⟨_, [','].intercalate (markedPairs digits), Wraps.refl _, ?_⟩
  have hcomma : ∀ c ∈ [','], isSeparator c = true := List.forall_mem_singleton.mpr (by decide)
  refine spaced_intercalate (by simp) hcomma fun item hitem => ?_
  obtain ⟨hne, halnum⟩ := isAlphanum_of_mem_markedPairs h hitem
  exact ⟨hne, fun c hc => (not_layout_of_isAlphanum (halnum c hc)).1⟩

/-! ## A pair as an item -/

/-- A marked pair is a byte when both of its characters are digits. -/
theorem isByte_marked_iff (ha : a ≠ '+') {v : UInt8} : IsByte ['0', 'x', a, b] v
    ↔ ∃ h l, IsHexDigit a h ∧ IsHexDigit b l ∧ v.toNat = 16 * h + l := by
  have hsign : Numeral.unsigned [a, b] = [a, b] :=
    Numeral.unsigned_eq_self fun ⟨_, hplus⟩ => ha (List.cons.inj hplus).1
  rw [IsByte, isItem_marked_iff (Or.inl rfl), Numeral.isHexadecimal_iff, hsign]
  constructor
  · -- a numeral of two characters has two digits, since neither of them is its sign
    rintro ⟨_, ds, hds, hvalue⟩
    cases hds with
    | @cons _ h _ _ hh hrest =>
        cases hrest with
        | @cons _ l _ _ hl hnil =>
            cases hnil
            refine ⟨h, l, hh, hl, ?_⟩
            rw [← hvalue]
            simp [Nat.ofDigits_cons, Nat.add_comm]
  · rintro ⟨h, l, hh, hl, hvalue⟩
    refine ⟨by simp, [h, l], .cons hh (.cons hl .nil), ?_⟩
    rw [hvalue]
    simp [Nat.ofDigits_cons, Nat.add_comm]

/-- A marked pair is no byte when one of its characters is no digit. -/
theorem readItem?_marked_eq_none (ha : a ≠ '+')
    (hnot : ¬ ((∃ h, IsHexDigit a h) ∧ ∃ l, IsHexDigit b l)) :
    readItem? ['0', 'x', a, b] = none := by
  rw [Option.eq_none_iff_forall_ne_some]
  intro v hv
  obtain ⟨h, l, hh, hl, _⟩ := (isByte_marked_iff ha).mp (readItem?_eq_some_iff.mp hv)
  exact hnot ⟨⟨h, hh⟩, l, hl⟩

/-- The bytes that digits spell are read of the list of their pairs. -/
theorem readItems_of_spells : ∀ {digits : Text} {bytes : Bytes} (n : Nat),
    (∀ c ∈ digits, c.isAlphanum = true) → Spells (Utf8.encode digits) bytes →
    readItems ((markedPairs digits).zipIdx n) = .ok bytes
  | [], bytes, n, _, hs => by
      cases hs
      rfl
  | [a], bytes, n, halnum, hs => by
      rw [Utf8.encode_cons_of_ascii (toNat_lt_of_isAlphanum (halnum a (by simp)))] at hs
      have hlength : 1 = 2 * bytes.length := hs.length
      omega
  | a :: b :: rest, bytes, n, halnum, hs => by
      obtain ⟨ha, hrest⟩ := List.forall_mem_cons.mp halnum
      obtain ⟨hb, hrest⟩ := List.forall_mem_cons.mp hrest
      have ha' := toNat_lt_of_isAlphanum ha
      have hb' := toNat_lt_of_isAlphanum hb
      rw [Utf8.encode_cons_of_ascii ha', Utf8.encode_cons_of_ascii hb'] at hs
      cases hs with
      | @pair _ _ h l _ bytes hh hl hs =>
          have hbyte := (isByte_marked_iff (not_layout_of_isAlphanum ha).2.1).mpr
            ⟨h, l, (isHexByte_ofNat_iff ha').mp hh, (isHexByte_ofNat_iff hb').mp hl,
              toNat_pair hh hl⟩
          -- one pair of digits is one item, and the number of the next is one more
          rw [markedPairs, List.zipIdx_cons, readItems, readItem?_eq_some_iff.mpr hbyte]
          simp only [readItems_of_spells (n + 1) hrest hs, Except.map]

/-- The item of the first stray byte is refused, which stands in the pair of half its number. -/
theorem readItems_of_stray : ∀ {digits : Text} {k : Nat} (n : Nat), digits.length % 2 = 0 →
    (∀ c ∈ digits, c.isAlphanum = true) → FirstStray (Utf8.encode digits) k →
    ∃ token, readItems ((markedPairs digits).zipIdx n) = .error (.malformedByte (n + k / 2) token)
  | [], _, _, _, _, hstray => by
      obtain ⟨_, _, _, hnil, _⟩ := hstray
      exact absurd hnil (by simp [Utf8.encode])
  | [_], _, _, heven, _, _ => absurd heven (by simp)
  | a :: b :: rest, k, n, heven, halnum, hstray => by
      obtain ⟨ha, hrest⟩ := List.forall_mem_cons.mp halnum
      obtain ⟨hb, hrest⟩ := List.forall_mem_cons.mp hrest
      have ha' := @isHexByte_ofNat_iff a (toNat_lt_of_isAlphanum ha)
      have hb' := @isHexByte_ofNat_iff b (toNat_lt_of_isAlphanum hb)
      have hplus := (not_layout_of_isAlphanum ha).2.1
      rw [Utf8.encode_cons_of_ascii (toNat_lt_of_isAlphanum ha),
        Utf8.encode_cons_of_ascii (toNat_lt_of_isAlphanum hb)] at hstray
      rw [length_pair_mod_two] at heven
      rw [markedPairs, List.zipIdx_cons, readItems]
      -- the stray byte is the first of this pair, or the second, or it stands in a later one
      rcases firstStray_cons_iff.mp hstray with ⟨hna, rfl⟩ | ⟨⟨h, hh⟩, _, hlater, rfl⟩
      · rw [readItem?_marked_eq_none hplus fun hboth => ?_]
        · exact ⟨_, rfl⟩
        · obtain ⟨⟨h, hh⟩, _⟩ := hboth
          exact hna ⟨h, ha'.mpr hh⟩
      · rcases firstStray_cons_iff.mp hlater with ⟨hnb, rfl⟩ | ⟨⟨l, hl⟩, k, hrest', rfl⟩
        · rw [readItem?_marked_eq_none hplus fun hboth => ?_]
          · exact ⟨_, rfl⟩
          · obtain ⟨_, l, hl⟩ := hboth
            exact hnb ⟨l, hb'.mpr hl⟩
        · have hbyte := (isByte_marked_iff hplus).mpr
            ⟨h, l, ha'.mp hh, hb'.mp hl, toNat_pair hh hl⟩
          obtain ⟨token, hread⟩ := readItems_of_stray (n + 1) heven hrest hrest'
          have hcount : n + 1 + k / 2 = n + (k + 1 + 1) / 2 := by omega
          rw [readItem?_eq_some_iff.mpr hbyte]
          refine ⟨token, ?_⟩
          simp only [hread, hcount, Except.map]

/-- **The digits and the list of their pairs are read alike.** -/
theorem agree_of_listsPairs (hd : decoder.IsPairwise) {digits : Text}
    (heven : digits.length % 2 = 0) (halnum : ∀ c ∈ digits, c.isAlphanum = true)
    (hlists : ListsPairs t digits) : Agree (readHexWith decoder digits) (readList t) := by
  have htrim : digitsOf digits = Utf8.encode digits := by rw [digitsOf, trim_of_isAlphanum halnum]
  have hbytes : (Utf8.encode digits).length % 2 = 0 := by
    rw [Utf8.length_encode_of_ascii fun c hc => toNat_lt_of_isAlphanum (halnum c hc)]
    exact heven
  rw [readList, items_of_listsPairs halnum hlists]
  -- either the digits spell bytes, and both readers give them, or both stop at one pair
  rcases spells_or_flaw (digitsOf digits) with ⟨bytes, hs⟩ | ⟨index, hflaw⟩
  · rw [readHexWith_of_spells hd hs, readItems_of_spells 0 halnum (htrim ▸ hs)]
    exact .read bytes
  · rw [readHexWith_of_flaw hd hflaw]
    rw [htrim] at hflaw
    cases hflaw with
    -- the number of digits is even, so this is not what is wrong with them
    | odd hodd => omega
    | @stray k _ hstray =>
        obtain ⟨token, hread⟩ := readItems_of_stray 0 heven halnum hstray
        rw [hread, Nat.zero_add]
        exact .refused _ _ _

/-! ## Spelling bytes -/

/-- Digits that spell bytes are letters and digits, and come in pairs. -/
theorem Spells.isAlphanum (hs : Spells (Utf8.encode t) bytes) :
    (∀ c ∈ t, c.isAlphanum = true) ∧ t.length % 2 = 0 := by
  have halnum : ∀ c ∈ t, c.isAlphanum = true := by
    intro c hc
    rw [← Utf8.eq_chars_of_ascii hs.ascii] at hc
    obtain ⟨b, hb, rfl⟩ := List.mem_map.mp hc
    obtain ⟨d, hd⟩ := hs.isDigitByte b hb
    exact isAlphanum_of_isHexDigit hd
  have hlength := hs.length
  rw [Utf8.length_encode_of_ascii fun c hc => toNat_lt_of_isAlphanum (halnum c hc)] at hlength
  exact ⟨halnum, by omega⟩

/-- A text without blanks is read as the bytes that it spells. -/
theorem Spells.readHexWith_eq (hs : Spells (Utf8.encode t) bytes) (hd : decoder.IsPairwise) :
    readHexWith decoder t = .ok bytes := by
  refine readHexWith_of_spells hd ?_
  rwa [digitsOf, trim_of_isAlphanum hs.isAlphanum.1]

/-- **Bytes are spelled by what is written of them.** -/
theorem spells_toHex (bytes : Bytes) : Spells (Utf8.encode (toHex bytes)) bytes := by
  have hdigit : ∀ d < 16, d.digitChar.toNat < 0x80 ∧ IsHexDigit d.digitChar d := by decide
  induction bytes with
  | nil => exact .nil
  | cons b bytes ih =>
      have hbyte := b.toNat_lt
      obtain ⟨hh, hh'⟩ := hdigit (b.toNat / 16) (by omega)
      obtain ⟨hl, hl'⟩ := hdigit (b.toNat % 16) (by omega)
      have hpair : 16 * (b.toNat / 16) + b.toNat % 16 = b.toNat := Nat.div_add_mod _ _
      have htoHex : toHex (b :: bytes)
          = (b.toNat / 16).digitChar :: (b.toNat % 16).digitChar :: toHex bytes := by
        rw [toHex, List.flatMap_cons, ← toHex, ← hpair,
          hexByte_pair (by omega) (Nat.mod_lt _ (by decide)), hpair]
        rfl
      have hspells := Spells.pair ((isHexByte_ofNat_iff hh).mpr hh')
        ((isHexByte_ofNat_iff hl).mpr hl') ih
      rwa [hpair, UInt8.ofNat_toNat, ← Utf8.encode_cons_of_ascii hl,
        ← Utf8.encode_cons_of_ascii hh, ← htoHex] at hspells

/-- **Contiguous digits and the list of their pairs are read alike**, and refused for the pair of
the same number. Bytes are spelled in digits of either case and listed in any such list, and either
way they are what is read. Asked for the one spelling or for the other, the tool prints the same
line. -/
theorem spellings_agree (hd : decoder.IsPairwise) :
    (∀ digits t : Text, digits.length % 2 = 0 → (∀ c ∈ digits, c.isAlphanum = true) →
      ListsPairs t digits →
      (∀ bytes, readHexWith decoder digits = .ok bytes ↔ readList t = .ok bytes)
        ∧ ∀ fault fault', readHexWith decoder digits = .error fault →
          readList t = .error fault' →
          ∃ index token token', fault = .malformedByte index token
            ∧ fault' = .malformedByte index token')
      ∧ ∀ bytes, (∃ digits t, Spells (Utf8.encode digits) bytes ∧ ListsPairs t digits)
        ∧ ∀ digits t, Spells (Utf8.encode digits) bytes → ListsPairs t digits →
          readHexWith decoder digits = .ok bytes ∧ readList t = .ok bytes
            ∧ ∀ (kit kit' : Kit) (host host' : Host) (words words' : List Bytes) (path : Path),
              kit.hexDecoder = decoder →
              kit.dumpParser host.environment words = .given { hex := some digits } →
              kit'.dumpParser host'.environment words' = .given { input := some path } →
              host'.source path = .ok (Utf8.encode t) →
              (DumpTool.run kit host words).exitCode = 0
                ∧ (DumpTool.run kit' host' words').exitCode = 0
                ∧ (DumpTool.run kit host words).output = describe bytes ++ ['\n']
                ∧ (DumpTool.run kit' host' words').output = describe bytes ++ ['\n'] := by
  refine ⟨fun digits t heven halnum hlists => ?_, fun bytes => ⟨?_, fun digits t hs hlists => ?_⟩⟩
  · have hagree := agree_of_listsPairs hd heven halnum hlists
    exact ⟨fun bytes => hagree.ok_iff, fun fault fault' => hagree.exists_index⟩
  · obtain ⟨t, hlists⟩ := exists_listsPairs (spells_toHex bytes).isAlphanum.1
    exact ⟨toHex bytes, t, spells_toHex bytes, hlists⟩
  · obtain ⟨halnum, heven⟩ := hs.isAlphanum
    have hagree := agree_of_listsPairs hd heven halnum hlists
    have hhex := hs.readHexWith_eq hd
    have hlist := hagree.ok_iff.mp hhex
    -- both dumps are there to be shown, with the same bytes
    refine ⟨hhex, hlist,
      fun kit kit' host host' words words' path hkit hgiven hgiven' hsource => ?_⟩
    rw [← hkit] at hhex
    have hshows : DumpTool.Shows kit host words bytes := ⟨_, hgiven, .hex hhex⟩
    have hshows' : DumpTool.Shows kit' host' words' bytes := ⟨_, hgiven', .list hsource hlist⟩
    obtain ⟨_, hrun⟩ := DumpTool.run_of_shows hshows
    obtain ⟨_, hrun'⟩ := DumpTool.run_of_shows hshows'
    rw [hrun, hrun']
    exact ⟨rfl, rfl, rfl, rfl⟩

/-- Digits of both cases, and a list with a blank and a comma too many. And a pair that looks like
the marker of an item, which spoils the digits and the list. -/
theorem spellings_agree_mixed :
    let host := bareHost (.ok (Utf8.encode "[0x5a,\n 0xFf,]".toList))
    hexDecoder.IsPairwise
      ∧ Spells (Utf8.encode "5aFf".toList) [0x5a, 0xff]
      ∧ ListsPairs "[0x5a,\n 0xFf,]".toList "5aFf".toList
      ∧ (DumpTool.run plainKit host
          [Utf8.encode "--hex".toList, Utf8.encode "5aFf".toList]).output = "Zÿ 2\n".toList
      ∧ (DumpTool.run plainKit host [Utf8.encode "--input=-".toList]).output = "Zÿ 2\n".toList
      ∧ ListsPairs "0x5A 0x0x".toList "5A0x".toList
      ∧ readHexWith hexDecoder "5A0x".toList = .error (.malformedByte 1 "5A0x".toList)
      ∧ ∃ token, readList "0x5A 0x0x".toList = .error (.malformedByte 1 token) := by
  intro host
  have hspells : Spells (Utf8.encode "5aFf".toList) [0x5a, 0xff] :=
    .pair (h := 5) (l := 10) (by decide) (by decide)
      (.pair (h := 15) (l := 15) (by decide) (by decide) .nil)
  have hlists : ListsPairs "[0x5a,\n 0xFf,]".toList "5aFf".toList := by
    refine ⟨"0x5a,\n 0xFf,".toList, ?_, piecesBetween_eq_iff.mp (by decide +kernel)⟩
    exact ⟨[], ['['], [], [], [']'], [], rfl, Or.inr rfl, Or.inr rfl, by simp⟩
  have hlists' : ListsPairs "0x5A 0x0x".toList "5A0x".toList :=
    ⟨_, Wraps.refl _, piecesBetween_eq_iff.mp (by decide +kernel)⟩
  have hhex : readHexWith hexDecoder "5A0x".toList
      = .error (.malformedByte 1 "5A0x".toList) := by decide +kernel
  have hgiven : plainKit.dumpParser host.environment
      [Utf8.encode "--hex".toList, Utf8.encode "5aFf".toList]
        = .given { hex := some "5aFf".toList } := by decide +kernel
  have hgiven' : plainKit.dumpParser host.environment [Utf8.encode "--input=-".toList]
      = .given { input := some (.ofText "-".toList) } := by decide +kernel
  obtain ⟨hread, hprinted⟩ := spellings_agree hexDecoder_isPairwise
  obtain ⟨_, _, hruns⟩ := (hprinted [0x5a, 0xff]).2 _ _ hspells hlists
  obtain ⟨_, _, hfirst, hsecond⟩ :=
    hruns plainKit plainKit host host _ _ _ rfl hgiven hgiven' (by decide +kernel)
  obtain ⟨hok, hfault⟩ := hread _ _ (by decide) (List.all_eq_true.mp (by decide)) hlists'
  refine ⟨hexDecoder_isPairwise, hspells, hlists, hfirst, hsecond, hlists', hhex, ?_⟩
  cases hlist : readList "0x5A 0x0x".toList with
  | ok bytes =>
      rw [(hok bytes).mpr hlist] at hhex
      exact absurd hhex (by simp)
  | error fault =>
      obtain ⟨index, token, token', hindex, hfault'⟩ := hfault _ _ hhex hlist
      rw [hfault', (Fault.malformedByte.inj hindex).1]
      exact ⟨token', rfl⟩

end DecoderKit.Dump
