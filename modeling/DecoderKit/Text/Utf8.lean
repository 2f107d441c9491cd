import DecoderKit.Text.Blank

/-!
# UTF-8

Bytes are read as text in two ways. `decode?` is strict: it gives a text exactly
for the bytes that encode one. `pieces` always answers: it goes through the bytes
once and takes them apart into characters and stray bytes. A stray piece is as
long as the bytes still looked like the start of a character, so each of them
stands for one replacement character in `decodeLossy`.

The second byte of a character is bound more tightly than the later ones after
four of the lead bytes; that is what keeps out overlong forms, surrogates and code
points above U+10FFFF.
-/

namespace DecoderKit

/-- A string of bytes. -/
abbrev Bytes := List UInt8

namespace Utf8

/-- The bytes of a text. -/
def encode (t : Text) : Bytes := t.flatMap String.utf8EncodeChar

/-- The text that the bytes encode, if they encode one. -/
def decode? (b : Bytes) : Option Text := b.toByteArray.utf8Decode?.map Array.toList

/-- Whether the bytes encode a text. -/
def isValid (b : Bytes) : Bool := (decode? b).isSome

/-- A character of which some bytes have been seen. -/
structure Begun where
  /-- Its bytes so far. -/
  taken : Bytes
  /-- The bits these bytes carry. -/
  value : Nat
  /-- How many bytes have to follow the next one. -/
  owed : Nat
  /-- The least byte that may come next. -/
  low : UInt8
  /-- The greatest byte that may come next. -/
  high : UInt8
deriving DecidableEq, Repr

/-- A part of a byte string: a whole character, or bytes that belong to none. -/
inductive Piece
  /-- Bytes that encode a character. -/
  | char (c : Char)
  /-- Bytes that encode no character and start none that is finished. -/
  | stray (bytes : Bytes)
deriving DecidableEq, Repr

/-- What a byte begins that can only be the first of several. -/
def lead? (b : UInt8) : Option Begun :=
  if 0xc2 ≤ b ∧ b ≤ 0xdf then some ⟨[b], b.toNat - 0xc0, 0, 0x80, 0xbf⟩
  else if b = 0xe0 then some ⟨[b], 0, 1, 0xa0, 0xbf⟩
  else if b = 0xed then some ⟨[b], 0xd, 1, 0x80, 0x9f⟩
  else if 0xe1 ≤ b ∧ b ≤ 0xef then some ⟨[b], b.toNat - 0xe0, 1, 0x80, 0xbf⟩
  else if b = 0xf0 then some ⟨[b], 0, 2, 0x90, 0xbf⟩
  else if 0xf1 ≤ b ∧ b ≤ 0xf3 then some ⟨[b], b.toNat - 0xf0, 2, 0x80, 0xbf⟩
  else if b = 0xf4 then some ⟨[b], 4, 2, 0x80, 0x8f⟩
  else none

/-- A byte read between characters: what it completes and what it begins. -/
def first (b : UInt8) : List Piece × Option Begun :=
  if b < 0x80 then ([.char (Char.ofNat b.toNat)], none)
  else
    match lead? b with
    | some begun => ([], some begun)
    | none => ([.stray [b]], none)

/-- A byte read after the start of a character, or between characters. -/
def step : Option Begun → UInt8 → List Piece × Option Begun
  | none, b => first b
  | some begun, b =>
    if begun.low ≤ b ∧ b ≤ begun.high then
      match begun.owed with
      | 0 => ([.char (Char.ofNat (begun.value * 64 + (b.toNat - 0x80)))], none)
      | owed + 1 =>
        ([], some ⟨begun.taken ++ [b], begun.value * 64 + (b.toNat - 0x80), owed, 0x80, 0xbf⟩)
    else
      (.stray begun.taken :: (first b).1, (first b).2)

/-- The pieces of the remaining bytes, given what has begun. -/
def scan : Option Begun → Bytes → List Piece
  | none, [] => []
  | some begun, [] => [.stray begun.taken]
  | state, b :: rest => (step state b).1 ++ scan (step state b).2 rest

/-- The characters and stray bytes of a byte string, in order. -/
def pieces (b : Bytes) : List Piece := scan none b

/-- A piece as one character: stray bytes become U+FFFD. -/
def Piece.shown : Piece → Char
  | .char c => c
  | .stray _ => '\uFFFD'

/-- The text of any bytes, with a replacement character for each stray piece. -/
def decodeLossy (b : Bytes) : Text := (pieces b).map Piece.shown

/-- Strict decoding undoes encoding, and accepts nothing else. -/
theorem decode?_eq_some_iff {b : Bytes} {t : Text} : decode? b = some t ↔ encode t = b := by
  constructor
  · intro h
    obtain ⟨a, ha, rfl⟩ := Option.map_eq_some_iff.mp h
    have hs : b.toByteArray.utf8Decode?.isSome := by rw [ha]; rfl
    have hg : b.toByteArray.utf8Decode?.get hs = a := by simp [ha]
    have he := ByteArray.utf8Encode_get_utf8Decode? (h := hs)
    rw [hg, List.utf8Encode] at he
    have hd := congrArg (fun x => x.data.toList) he
    simpa [encode] using hd
  · rintro rfl
    have he : (encode t).toByteArray = t.utf8Encode := rfl
    simp [decode?, he, List.utf8Decode?_utf8Encode]

theorem encode_injective {s t : Text} (h : encode s = encode t) : s = t :=
  Option.some.inj ((decode?_eq_some_iff.mpr h).symm.trans (decode?_eq_some_iff.mpr rfl))

theorem decode?_eq_none_iff {b : Bytes} : decode? b = none ↔ ∀ t, encode t ≠ b := by
  rw [Option.eq_none_iff_forall_ne_some]
  refine ⟨fun h t ht => h t (decode?_eq_some_iff.mpr ht), fun h t ht => ?_⟩
  exact h t (decode?_eq_some_iff.mp ht)

end Utf8

end DecoderKit
