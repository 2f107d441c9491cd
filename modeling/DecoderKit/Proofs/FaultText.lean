import DecoderKit.Proofs.Dump.HexString
import DecoderKit.Proofs.Dump.Joining
import DecoderKit.Proofs.Table.Reading
import DecoderKit.Proofs.Text.Unquoting

/-!
# What the text of a fault tells

A reader refuses a text for one item of it, and an item can be any text. The message of the fault
and its hint name the place and quote the item. Quoting leaves nothing in them that would end a line
or do anything else to a terminal, and it loses nothing: the item can be taken back from either
(`Fault.Blames.quotedIn?_eq`).

The rest of both texts are fixed words and a number. The words say what kind of fault it is, and no
digit stands behind the number, so it ends where it seems to end. Together, two faults of readers
that are told in the same words are the same fault (`Fault.Blames.eq_of_told`).
-/

namespace DecoderKit

open Numeral (IsDecimal decimal isDigits_decimal)
open Quoted (quote quote_append_inj isShown_of_mem_words unquote? unquote?_quote)
open Text (isShown)

/-- The reason is one for which a line is refused, and it is about this column if it is about
one. -/
inductive RowFault.Blames : RowFault → Option Text → Prop where
  | count (found : Nat) : Blames (.columnCount found) none
  | tooLarge (column : Text) : Blames (.tooLarge column) (some column)
  | notANumber (column : Text) : Blames (.notANumber column) (some column)

/-- The fault is that of a reader, and it is about this item of the text if it is about one. -/
inductive Fault.Blames : Fault → Option Text → Prop where
  | row {reason : RowFault} {token : Option Text} (line : Nat) :
      reason.Blames token → Blames (.malformedRow line reason) token
  | byte (index : Nat) (token : Text) : Blames (.malformedByte index token) (some token)

/-- There is nothing in the text but its one line: no controls, and no separators of lines or
paragraphs. -/
def IsOneLine (t : Text) : Prop :=
  ∀ c ∈ t, Text.isControl c = false ∧ c ≠ '\u2028' ∧ c ≠ '\u2029'

/-- The text that is quoted first in a text. -/
def quotedIn? (t : Text) : Option Text := (unquote? (t.dropWhile (· != '"'))).map Prod.fst

variable {fault fault' : Fault} {reason reason' : RowFault} {token token' : Option Text}
  {n n' : Nat} {lead gap rest rest' t : Text}

/-! ## Words and numbers -/

theorem isShown_of_mem_decimal {c : Char} (h : c ∈ decimal n) : isShown c = true := by
  obtain ⟨d, hd, rfl⟩ := Numeral.mem_toDigits (by decide) h
  exact (Quoted.isShown_digitChar (by omega)).1

theorem decimal_injective (h : decimal n = decimal n') : n = n' := by
  rw [← (isDigits_decimal n).value, h, (isDigits_decimal n').value]

/-- A number ends where something else than a digit stands. -/
theorem decimal_append_inj {mark : Char} (hgap : gap.head? = some mark)
    (hmark : mark.isDigit = false)
    (h : decimal n ++ (gap ++ rest) = decimal n' ++ (gap ++ rest')) : n = n' ∧ rest = rest' := by
  -- the mark ends the digits on both sides
  have htake : ∀ n rest, (decimal n ++ (gap ++ rest)).takeWhile Char.isDigit = decimal n := by
    intro n rest
    refine takeWhile_append_eq (isDigits_decimal n).digits fun c hc => ?_
    rw [List.head?_append, hgap] at hc
    rwa [← Option.some.inj hc]
  have hn : decimal n = decimal n' := by rw [← htake n rest, h, htake]
  rw [hn] at h
  exact ⟨decimal_injective hn, List.append_cancel_left (List.append_cancel_left h)⟩

/-- Between the same words there are the same numbers, with the same behind them. -/
theorem numbered_inj {mark : Char} (hgap : gap.head? = some mark) (hmark : mark.isDigit = false)
    (h : lead ++ decimal n ++ gap ++ rest = lead ++ decimal n' ++ gap ++ rest') :
    n = n' ∧ rest = rest' := by
  simp only [List.append_assoc] at h
  exact decimal_append_inj hgap hmark (List.append_cancel_left h)

/-! ## Nothing but one line -/

theorem isOneLine_of_isShown (h : ∀ c ∈ t, isShown c = true) : IsOneLine t := by
  have hline : isShown '\u2028' = false := by decide +kernel
  have hparagraph : isShown '\u2029' = false := by decide +kernel
  intro c hc
  have hshown := h c hc
  -- the two separators are no controls, but they are not shown as they are either
  refine ⟨Text.not_isControl_of_isShown hshown, ?_, ?_⟩
  · rintro rfl
    exact absurd hshown (by simp [hline])
  · rintro rfl
    exact absurd hshown (by simp [hparagraph])

/-- Words that are shown, around a number and in front of a text that is shown. -/
theorem isShown_numbered (hlead : (lead.all fun c => 0x20 ≤ c.toNat ∧ c.toNat < 0x7f) = true)
    (hgap : (gap.all fun c => 0x20 ≤ c.toNat ∧ c.toNat < 0x7f) = true)
    (hrest : ∀ c ∈ rest, isShown c = true) (n : Nat) :
    ∀ c ∈ lead ++ decimal n ++ gap ++ rest, isShown c = true := by
  simp only [List.forall_mem_append]
  exact ⟨⟨⟨fun c => isShown_of_mem_words hlead, fun c => isShown_of_mem_decimal⟩,
    fun c => isShown_of_mem_words hgap⟩, hrest⟩

theorem RowFault.Blames.isShown_text (h : reason.Blames token) :
    ∀ c ∈ reason.text, isShown c = true := by
  cases h with
  | count found =>
      exact List.forall_mem_append.mpr
        ⟨fun c => isShown_of_mem_words (by decide), fun c => isShown_of_mem_decimal⟩
  | tooLarge column =>
      exact List.forall_mem_append.mpr
        ⟨fun c => Quoted.isShown_of_mem_quote, fun c => isShown_of_mem_words (by decide)⟩
  | notANumber column =>
      exact List.forall_mem_append.mpr
        ⟨fun c => Quoted.isShown_of_mem_quote, fun c => isShown_of_mem_words (by decide)⟩

/-- **A fault of a reader is told on one line**, whatever the item is. -/
theorem Fault.Blames.isOneLine (h : fault.Blames token) :
    IsOneLine fault.message ∧ IsOneLine fault.hint := by
  refine ⟨isOneLine_of_isShown ?_, isOneLine_of_isShown ?_⟩
  · cases h with
    | row line hreason => exact isShown_numbered (by decide) (by decide) hreason.isShown_text line
    | byte index token =>
        exact isShown_numbered (by decide) (by decide) (fun c => Quoted.isShown_of_mem_quote) index
  · cases h with
    | row line hreason =>
        exact List.forall_mem_append.mpr
          ⟨isShown_numbered (by decide) (by decide) hreason.isShown_text line,
            fun c => isShown_of_mem_words (by decide)⟩
    | byte index token =>
        exact List.forall_mem_append.mpr
          ⟨isShown_numbered (by decide) (by decide) (fun c => Quoted.isShown_of_mem_quote) index,
            fun c => isShown_of_mem_words (by decide)⟩

/-! ## The item that is quoted -/

/-- The first quotation is found behind words that have no quotes. -/
theorem quotedIn?_append (hlead : '"' ∉ lead) (t rest : Text) :
    quotedIn? (lead ++ (quote t ++ rest)) = some t := by
  have hwords : ∀ c ∈ lead, (c != '"') = true :=
    fun c hc => bne_iff_ne.mpr fun heq => hlead (heq ▸ hc)
  have hquote : ∀ c ∈ (quote t ++ rest).head?, (c != '"') = false := by
    intro c hc
    rw [← Option.some.inj hc]
    rfl
  rw [quotedIn?, dropWhile_append_eq hwords hquote, unquote?_quote]
  rfl

theorem quotedIn?_of_not_mem (h : '"' ∉ t) : quotedIn? t = none := by
  have hwords : ∀ c ∈ t, (c != '"') = true := fun c hc => bne_iff_ne.mpr fun heq => h (heq ▸ hc)
  rw [quotedIn?, List.dropWhile_eq_nil_iff.mpr hwords]
  rfl

theorem quote_not_mem_decimal (n : Nat) : '"' ∉ decimal n :=
  fun h => absurd ((isDigits_decimal n).digits _ h) (by decide)

theorem quote_not_mem_numbered (hlead : '"' ∉ lead) (hgap : '"' ∉ gap) (n : Nat) :
    '"' ∉ lead ++ decimal n ++ gap :=
  List.not_mem_append (List.not_mem_append hlead (quote_not_mem_decimal n)) hgap

/-- A reason begins with the quotation of its column, or quotes nothing. -/
theorem RowFault.Blames.text_cases (h : reason.Blames token) :
    (token = none ∧ '"' ∉ reason.text)
      ∨ ∃ column words, token = some column ∧ reason.text = quote column ++ words := by
  cases h with
  | count found =>
      exact Or.inl ⟨rfl, List.not_mem_append (by decide) (quote_not_mem_decimal found)⟩
  | tooLarge column => exact Or.inr ⟨column, _, rfl, rfl⟩
  | notANumber column => exact Or.inr ⟨column, _, rfl, rfl⟩

/-- The column is found in a reason that stands among other words. -/
theorem RowFault.Blames.quotedIn?_append (h : reason.Blames token) (hlead : '"' ∉ lead)
    (hrest : '"' ∉ rest) : quotedIn? (lead ++ (reason.text ++ rest)) = token := by
  -- nothing in front is quoted, so the first quotation is that of the reason, if it has one
  rcases h.text_cases with ⟨rfl, htext⟩ | ⟨column, words, rfl, htext⟩
  · exact quotedIn?_of_not_mem (List.not_mem_append hlead (List.not_mem_append htext hrest))
  · rw [htext, List.append_assoc, DecoderKit.quotedIn?_append hlead]

/-- **What a fault quotes is the item that it is about**, in its message and in its hint. -/
theorem Fault.Blames.quotedIn?_eq (h : fault.Blames token) :
    quotedIn? fault.message = token ∧ quotedIn? fault.hint = token := by
  cases h with
  | @row reason token line hreason =>
      have hmessage : '"' ∉ "malformed row at line ".toList ++ decimal line ++ ": ".toList :=
        quote_not_mem_numbered (by decide) (by decide) line
      have hhint : '"' ∉ "line ".toList ++ decimal line ++ ": ".toList :=
        quote_not_mem_numbered (by decide) (by decide) line
      constructor
      · have hread := hreason.quotedIn?_append hmessage List.not_mem_nil
        rw [List.append_nil] at hread
        exact hread
      · have htail : '"' ∉ ". Each row needs four non-negative integers.".toList := by decide
        have hread := hreason.quotedIn?_append hhint htail
        rw [← List.append_assoc] at hread
        exact hread
  | byte index token =>
      have hmessage : '"' ∉ "malformed byte #".toList ++ decimal index ++ ": ".toList :=
        quote_not_mem_numbered (by decide) (by decide) index
      have hhint : '"' ∉ "byte #".toList ++ decimal index ++ " (".toList :=
        quote_not_mem_numbered (by decide) (by decide) index
      constructor
      · have hread := quotedIn?_append hmessage token []
        rw [List.append_nil] at hread
        exact hread
      · have hread := quotedIn?_append hhint token ") is not a value in 0..=255.".toList
        rw [← List.append_assoc] at hread
        exact hread

/-! ## The same words -/

/-- Reasons in the same words are the same. -/
theorem RowFault.Blames.eq_of_text (h : reason.Blames token) (h' : reason'.Blames token')
    (htext : reason.text = reason'.text) : reason = reason' := by
  -- a quotation is found in both of them or in none, and it is the same
  have htoken : token = token' := by
    have hread := h.quotedIn?_append List.not_mem_nil List.not_mem_nil
    rw [htext, h'.quotedIn?_append List.not_mem_nil List.not_mem_nil] at hread
    exact hread.symm
  subst htoken
  -- the column tells the reasons apart that quote none, and the words tell the other two
  cases h with
  | count found =>
      cases h' with
      | count found' => rw [decimal_injective (List.append_cancel_left htext)]
  | tooLarge column =>
      cases h' with
      | tooLarge => rfl
      | notANumber => exact absurd htext (Row.tooLarge_text_ne column)
  | notANumber column =>
      cases h' with
      | tooLarge => exact absurd htext.symm (Row.tooLarge_text_ne column)
      | notANumber => rfl

/-- Faults of the two kinds differ in their first words. -/
theorem row_told_apart (line : Nat) (reason : RowFault) (index : Nat) (token : Text) :
    (Fault.malformedRow line reason).message ≠ (Fault.malformedByte index token).message
      ∧ (Fault.malformedRow line reason).hint ≠ (Fault.malformedByte index token).hint := by
  constructor
  · intro hmessage
    have hletter : some 'r' = some 'b' := congrArg (fun t : Text => t[10]?) hmessage
    exact absurd hletter (by decide)
  · intro hhint
    have hletter : some 'l' = some 'b' := congrArg List.head? hhint
    exact absurd hletter (by decide)

/-- **Faults of readers that are told in the same words are the same.** -/
theorem Fault.Blames.eq_of_told (h : fault.Blames token) (h' : fault'.Blames token')
    (htold : fault.message = fault'.message ∨ fault.hint = fault'.hint) : fault = fault' := by
  have hcolon : ": ".toList.head? = some ':' := rfl
  have hbracket : " (".toList.head? = some ' ' := rfl
  cases h with
  | @row reason token line hreason =>
      cases h' with
      | @row reason' token' line' hreason' =>
          -- the number ends at the colon, and what stands behind it is the reason
          have hsame : line = line' ∧ reason.text = reason'.text := by
            rcases htold with hmessage | hhint
            · exact numbered_inj hcolon (by decide) hmessage
            · exact numbered_inj hcolon (by decide) (List.append_cancel_right hhint)
          obtain ⟨rfl, htext⟩ := hsame
          rw [hreason.eq_of_text hreason' htext]
      | byte index token =>
          obtain ⟨hmessage, hhint⟩ := row_told_apart line reason index token
          exact (htold.elim hmessage hhint).elim
  | byte index token =>
      cases h' with
      | @row reason token' line hreason =>
          obtain ⟨hmessage, hhint⟩ := row_told_apart line reason index token
          exact (htold.elim hmessage.symm hhint.symm).elim
      | byte index' token' =>
          -- the number ends at the colon or the bracket, and then comes the quotation
          have hsame : index = index' ∧ quote token = quote token' := by
            rcases htold with hmessage | hhint
            · exact numbered_inj hcolon (by decide) hmessage
            · exact numbered_inj hbracket (by decide) (List.append_cancel_right hhint)
          obtain ⟨rfl, hquote⟩ := hsame
          rw [(quote_append_inj (congrArg (· ++ []) hquote)).1]

/-! ## The faults of the readers -/

theorem Row.blames_of_refused {columns : List Text} (h : Row.Refused columns reason) :
    (columns.length ≠ 4 ∧ reason.Blames none)
      ∨ ∃ before column after, columns = before ++ column :: after ∧ columns.length = 4
        ∧ (∀ c ∈ before, ∃ v : UInt32, IsDecimal c v.toNat)
        ∧ (¬ ∃ v : UInt32, IsDecimal column v.toNat) ∧ reason.Blames (some column) := by
  cases h with
  | count hne => exact Or.inl ⟨hne, .count _⟩
  | @column before after column hfour hbefore hcolumn =>
      refine Or.inr ⟨before, column, after, rfl, hfour, hbefore, hcolumn, ?_⟩
      rw [columnFault]
      split
      · exact .tooLarge column
      · exact .notANumber column

/-- An item of a byte list is blamed that is no byte, and it is the first. -/
theorem Dump.malformedByte_of_readList (h : Dump.readList t = .error fault) :
    ∃ before item after, Dump.items t = before ++ item :: after
      ∧ (∀ x ∈ before, ∃ b, Dump.IsByte x b) ∧ (¬ ∃ b, Dump.IsByte item b)
      ∧ fault = .malformedByte before.length item := by
  rw [Dump.readList_eq_mapM, mapM_eq_error_iff] at h
  obtain ⟨before, ⟨item, index⟩, after, hsplit, hbefore, hitem⟩ := h
  obtain ⟨front, rear, hitems, rfl, rfl, _⟩ := zipIdx_eq_append_cons_iff.mp hsplit
  obtain ⟨hno, hfault⟩ := Dump.readNumbered_eq_error_iff.mp hitem
  refine ⟨front, item, rear, hitems, fun x hx => ?_, hno, hfault⟩
  rw [← List.zipIdx_map_fst 0 front] at hx
  obtain ⟨numbered, hnumbered, rfl⟩ := List.mem_map.mp hx
  obtain ⟨b, hb⟩ := hbefore numbered hnumbered
  exact ⟨b, Dump.readNumbered_eq_ok_iff.mp hb⟩

/-- **What a reader says of a text is one line, and it identifies the culprit.** Whatever the text
that is refused, the message of the fault and its hint hold no controls and no separators. They
quote the item at fault, in a form that can be taken back: the leftmost column that is no numeral,
the first item that is no byte, or all that stands between the blanks of contiguous digits. No other
fault of a reader is told in the same message or with the same hint. -/
theorem faults_tell :
    (∀ fault token, Fault.Blames fault token → IsOneLine fault.message ∧ IsOneLine fault.hint
        ∧ quotedIn? fault.message = token ∧ quotedIn? fault.hint = token)
      ∧ (∀ fault fault' token token', Fault.Blames fault token → Fault.Blames fault' token' →
        fault.message = fault'.message ∨ fault.hint = fault'.hint → fault = fault')
      ∧ (∀ number line fault, Table.readRow number line = .error fault →
        ∃ reason, fault = .malformedRow number reason
          ∧ ((Text.words line).length ≠ 4 ∧ fault.Blames none
            ∨ ∃ before column after, Text.words line = before ++ column :: after
              ∧ (Text.words line).length = 4
              ∧ (∀ c ∈ before, ∃ v : UInt32, IsDecimal c v.toNat)
              ∧ (¬ ∃ v : UInt32, IsDecimal column v.toNat) ∧ fault.Blames (some column)))
      ∧ (∀ t fault, Table.read t = .error fault → ∃ number line, Text.IsLine t number line
        ∧ Table.readRow number line = .error fault)
      ∧ (∀ t fault, Dump.readList t = .error fault →
        ∃ before token after, Dump.items t = before ++ token :: after
          ∧ (∀ item ∈ before, ∃ b, Dump.IsByte item b) ∧ (¬ ∃ b, Dump.IsByte token b)
          ∧ fault = .malformedByte before.length token ∧ fault.Blames (some token))
      ∧ ∀ (decoder : Dump.HexDecoder) t fault, Dump.readHexWith decoder t = .error fault →
        ∃ index, fault = .malformedByte index (Text.trim t)
          ∧ fault.Blames (some (Text.trim t))
          ∧ (decoder.IsPairwise → Dump.Flaw (Dump.digitsOf t) index) := by
  refine ⟨fun fault token h => ?_, fun _ _ _ _ h h' => h.eq_of_told h',
    fun number line fault h => ?_, fun t fault h => ?_, fun t fault h => ?_,
    fun decoder t fault h => ?_⟩
  · obtain ⟨hmessage, hhint⟩ := h.isOneLine
    exact ⟨hmessage, hhint, h.quotedIn?_eq⟩
  · -- a row: the wrong number of columns, or the first that is no numeral
    obtain ⟨reason, hreason, rfl⟩ := Table.readRow_eq_error_iff.mp h
    refine ⟨reason, rfl, ?_⟩
    rcases Row.blames_of_refused (Row.ofLine_eq_error_iff.mp hreason) with ⟨hne, hblames⟩
        | ⟨before, column, after, hwords, hfour, hbefore, hcolumn, hblames⟩
    · exact Or.inl ⟨hne, .row number hblames⟩
    · exact Or.inr ⟨before, column, after, hwords, hfour, hbefore, hcolumn, .row number hblames⟩
  · -- a table: one of its lines
    obtain ⟨number, line, hfirst, hread⟩ := Table.read_eq_error_iff.mp h
    exact ⟨number, line, hfirst.isLine, hread⟩
  · -- a byte list: its first item that is no byte
    obtain ⟨before, token, after, hitems, hbefore, htoken, rfl⟩ := Dump.malformedByte_of_readList h
    exact ⟨before, token, after, hitems, hbefore, htoken, rfl, .byte _ token⟩
  · -- contiguous digits: all of them, whatever the decoder
    obtain ⟨index, rfl⟩ := Dump.malformedByte_of_readHexWith h
    refine ⟨index, rfl, .byte index _, fun hd => ?_⟩
    obtain ⟨index', hflaw, hfault⟩ := (Dump.readHexWith_eq_error_iff hd).mp h
    rwa [(Fault.malformedByte.inj hfault).1]

/-- Digits that go on with a line feed, an escape, a quote, a backslash and a line separator. And
a line feed in an item against its escape. -/
theorem faults_tell_escaped :
    let token := "0\n\x1b\"\\\u202812".toList
    Dump.readHexWith Dump.hexDecoder (' ' :: token) = .error (.malformedByte 0 token)
      ∧ (Fault.malformedByte 0 token).message
        = "malformed byte #0: \"0\\n\\u\x7b1b\x7d\\\"\\\\\\u\x7b2028\x7d12\"".toList
      ∧ IsOneLine (Fault.malformedByte 0 token).message
      ∧ quotedIn? (Fault.malformedByte 0 token).message = some token
      ∧ (Fault.malformedByte 0 "1\n2".toList).hint
        ≠ (Fault.malformedByte 0 "1\\n2".toList).hint := by
  intro token
  obtain ⟨htold, hsame, _, _, _, hhex⟩ := faults_tell
  have hread : Dump.readHexWith Dump.hexDecoder (' ' :: token)
      = .error (.malformedByte 0 token) := by decide +kernel
  obtain ⟨_, _, hblames, _⟩ := hhex _ _ _ hread
  have htrim : Text.trim (' ' :: token) = token := by decide +kernel
  rw [htrim] at hblames
  obtain ⟨hline, _, hquoted, _⟩ := htold _ _ hblames
  refine ⟨hread, by decide +kernel, hline, hquoted, fun hhint => ?_⟩
  have heq := hsame _ _ _ _ (.byte 0 "1\n2".toList) (.byte 0 "1\\n2".toList) (Or.inr hhint)
  exact absurd (Fault.malformedByte.inj heq).2 (by decide)

end DecoderKit
