import DecoderKit.Proofs.Text.Quotation

/-!
# Taking quoted text back

A reader of quoted text goes from character to character and stands in one of four places: between
two characters of the text, behind a backslash, behind the letter that begins a code point, or among
the digits of one. What it makes of the next character depends on the place alone (`move`).

What is put into quotes for one character brings the reader back to where it was, with that
character (`readInside_escape`). So a quotation is read to its end with the text that was quoted,
and what follows it is left as it is: a text with a quotation in front can be taken apart in one way
only.
-/

namespace DecoderKit.Quoted

open Numeral (digit? isDigitOf valueFrom)
open Text (isShown)

/-- Where a reader stands inside quotes. -/
inductive Place
  /-- Between two characters of the text. -/
  | between
  /-- Behind a backslash. -/
  | escape
  /-- Behind the letter that begins a code point. -/
  | opening
  /-- Among the digits of a code point, with the value of those before. -/
  | code (value : Nat)

/-- What a reader makes of a character. -/
inductive Move
  /-- It is the last one of a character of the text. -/
  | emit (c : Char)
  /-- It leads elsewhere. -/
  | go (place : Place)
  /-- It is the closing quote. -/
  | close
  /-- It cannot stand here. -/
  | fail

/-- The character that is written as a backslash and a mark. -/
def marked? : Char → Option Char
  | '0' => some '\x00'
  | 't' => some '\t'
  | 'n' => some '\n'
  | 'r' => some '\r'
  | '"' => some '"'
  | '\\' => some '\\'
  | _ => none

/-- What a reader makes of the next character. -/
def move : Place → Char → Move
  | .between, '"' => .close
  | .between, '\\' => .go .escape
  | .between, c => .emit c
  | .escape, 'u' => .go .opening
  | .escape, mark =>
    match marked? mark with
    | some c => .emit c
    | none => .fail
  | .opening, c => if c = '\x7b' then .go (.code 0) else .fail
  | .code value, c =>
    match digit? 16 c with
    | some d => .go (.code (value * 16 + d))
    | none => if c = '\x7d' then .emit (Char.ofNat value) else .fail

/-- Reads to the closing quote, and gives back what follows it. -/
def readInside : Place → Text → Option (Text × Text)
  | _, [] => none
  | place, c :: rest =>
    match move place c with
    | .emit x => (readInside .between rest).map fun read => (x :: read.1, read.2)
    | .go place => readInside place rest
    | .close => some ([], rest)
    | .fail => none

/-- Reads the quotation that a text begins with, and gives back what follows it. -/
def unquote? : Text → Option (Text × Text)
  | '"' :: rest => readInside .between rest
  | _ => none

variable {c : Char} {t t' rest rest' : Text}

/-! ## One character -/

theorem readInside_emit {place : Place} {x : Char} (h : move place c = .emit x) (rest : Text) :
    readInside place (c :: rest)
      = (readInside .between rest).map fun read => (x :: read.1, read.2) := by
  rw [readInside, h]

theorem readInside_go {place place' : Place} (h : move place c = .go place') (rest : Text) :
    readInside place (c :: rest) = readInside place' rest := by
  rw [readInside, h]

theorem move_between (hquote : c ≠ '"') (hbackslash : c ≠ '\\') : move .between c = .emit c := by
  rw [move]
  · exact hquote
  · exact hbackslash

/-- Among digits, the reader keeps their value. -/
theorem readInside_digits {digits : Text} (h : ∀ c ∈ digits, isDigitOf 16 c = true)
    (value : Nat) (rest : Text) : readInside (.code value) (digits ++ rest)
      = readInside (.code (valueFrom 16 value digits)) rest := by
  induction digits generalizing value with
  | nil => rfl
  | cons c digits ih =>
      obtain ⟨hc, hdigits⟩ := List.forall_mem_cons.mp h
      obtain ⟨d, hd⟩ := Option.isSome_iff_exists.mp hc
      have hmove : move (.code value) c = .go (.code (value * 16 + d)) := by rw [move, hd]
      rw [List.cons_append, readInside_go hmove, ih hdigits, Numeral.valueFrom_cons hd]

/-- What stands in quotes for a character is read as this character. -/
theorem readInside_escape (c : Char) (rest : Text) : readInside .between (escape c ++ rest)
    = (readInside .between rest).map fun read => (c :: read.1, read.2) := by
  rw [escape]
  -- the six characters that have a mark
  split
  · subst c; rfl
  split
  · subst c; rfl
  split
  · subst c; rfl
  split
  · subst c; rfl
  split
  · subst c; rfl
  split
  · subst c; rfl
  rename_i hquote hbackslash
  split
  · exact readInside_emit (move_between hquote hbackslash) rest
  · -- the digits are followed by a brace, and by then their value is the code point
    have hdigits : ∀ x ∈ Numeral.hex c.toNat, isDigitOf 16 x = true :=
      fun x hx => Numeral.isDigitOf_of_mem_toDigits (by decide) (by decide) hx
    have hclose : ∀ value, move (.code value) '\x7d' = .emit (Char.ofNat value) := fun _ => rfl
    rw [List.append_assoc, List.append_assoc]
    show readInside (.code 0) (Numeral.hex c.toNat ++ '\x7d' :: rest) = _
    rw [readInside_digits hdigits, Numeral.hex, Numeral.valueFrom_toDigits (by decide) (by decide),
      readInside_emit (hclose _), Char.ofNat_toNat]

/-! ## A whole quotation -/

theorem readInside_flatMap_escape (t rest : Text) :
    readInside .between (t.flatMap escape ++ '"' :: rest) = some (t, rest) := by
  induction t with
  | nil => rfl
  | cons c t ih =>
      rw [List.flatMap_cons, List.append_assoc, readInside_escape, ih]
      rfl

/-- **A quotation is read as the text that was quoted**, whatever follows it. -/
theorem unquote?_quote (t rest : Text) : unquote? (quote t ++ rest) = some (t, rest) := by
  rw [quote, List.cons_append, List.cons_append, List.append_assoc]
  exact readInside_flatMap_escape t rest

/-- A text that begins with a quotation can be taken apart in one way. -/
theorem quote_append_inj (h : quote t ++ rest = quote t' ++ rest') : t = t' ∧ rest = rest' := by
  have hread := unquote?_quote t rest
  rw [h, unquote?_quote] at hread
  exact Prod.mk.inj (Option.some.inj hread.symm)

/-- A quotation holds shown characters only. -/
theorem isShown_of_mem_quote {x : Char} (h : x ∈ quote t) : isShown x = true := by
  have hquote : isShown '"' = true := isShown_of_mem_marks (by decide)
  rw [quote, List.mem_append, List.mem_cons] at h
  rcases h with (rfl | h) | h
  · exact hquote
  · obtain ⟨c, _, hx⟩ := List.mem_flatMap.mp h
    exact isShown_of_mem_escape hx
  · rwa [List.mem_singleton.mp h]

end DecoderKit.Quoted
