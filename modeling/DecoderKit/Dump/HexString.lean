import DecoderKit.Fault

/-!
# Contiguous hexadecimal

Two digits make a byte, without anything between. The bytes of the trimmed text are
given to a decoder that knows nothing of texts. It may refuse them, and says why. What
is reported then is the pair that is to blame, with the whole text: the pair of the byte
that is no digit, or the one that lacks its second digit.
-/

namespace DecoderKit.Dump

/-- Why digits are refused. -/
inductive HexError
  /-- A byte is the character of no digit. Bytes count from zero. -/
  | stray (c : Char) (index : Nat)
  /-- The number of the digits is odd. -/
  | odd
  /-- The number of the digits is not what was asked for. -/
  | length
deriving DecidableEq, Repr

/-- A decoder of hexadecimal digits: the bytes that they spell, or why there are none. -/
abbrev HexDecoder := Bytes → Except HexError Bytes

/-- The pair of a text that an error is about. -/
def HexError.pair (t : Text) : HexError → Nat
  | .stray _ index => index / 2
  | _ => (Utf8.encode t).length / 2

/-- Reads contiguous hexadecimal digits with a decoder. -/
def readHexWith (decoder : HexDecoder) (t : Text) : Except Fault Bytes :=
  let digits := Text.trim t
  match decoder (Utf8.encode digits) with
  | .ok bytes => .ok bytes
  | .error error => .error (.malformedByte (error.pair digits) digits)

/-! ## A decoder -/

/-- The value of a byte that is an ASCII hexadecimal digit. -/
def hexDigit? (b : UInt8) : Option Nat := Numeral.digit? 16 (Char.ofNat b.toNat)

/-- Reads pairs of digits, of which the first byte has this number. -/
def readPairs (index : Nat) : Bytes → Except HexError Bytes
  | high :: low :: rest =>
    match hexDigit? high with
    | none => .error (.stray (Char.ofNat high.toNat) index)
    | some h =>
      match hexDigit? low with
      | none => .error (.stray (Char.ofNat low.toNat) (index + 1))
      | some l => (readPairs (index + 2) rest).map (UInt8.ofNat (16 * h + l) :: ·)
  | _ => .ok []

/-- The decoder that asks for an even number of digits first, and then looks at them from the
left. -/
def hexDecoder : HexDecoder := fun digits =>
  if digits.length % 2 = 1 then .error .odd else readPairs 0 digits

end DecoderKit.Dump
