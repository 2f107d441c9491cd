import DecoderKit.Text.Category
import DecoderKit.Text.Numeral
import DecoderKit.Text.Utf8

/-!
# Quoted text

Messages show a token of the input in double quotes, in a form that fits on one
line and can be taken back. The backslash, the double quote and four controls have
a short escape; any other character that is not shown is written as its code point
in hexadecimal; everything else stands for itself. Byte strings that need not be
text are quoted the same way, with every stray byte as two upper case hexadecimal
digits.
-/

namespace DecoderKit.Quoted

/-- One character inside quotes. -/
def escape (c : Char) : Text :=
  if c = '\x00' then ['\\', '0']
  else if c = '\t' then ['\\', 't']
  else if c = '\n' then ['\\', 'n']
  else if c = '\r' then ['\\', 'r']
  else if c = '"' then ['\\', '"']
  else if c = '\\' then ['\\', '\\']
  else if Text.isShown c then [c]
  else ['\\', 'u', '\x7b'] ++ Numeral.hex c.toNat ++ ['\x7d']

/-- A text in double quotes. -/
def quote (t : Text) : Text := '"' :: t.flatMap escape ++ ['"']

/-- A byte inside quotes that belongs to no character. -/
def escapeByte (b : UInt8) : Text :=
  ['\\', 'x'] ++ (Numeral.hexByte b.toNat).map Char.toUpper

/-- A piece of a byte string inside quotes. -/
def escapePiece : Utf8.Piece → Text
  | .char c => escape c
  | .stray bytes => bytes.flatMap escapeByte

/-- A byte string in double quotes. -/
def quoteBytes (b : Bytes) : Text := '"' :: (Utf8.pieces b).flatMap escapePiece ++ ['"']

end DecoderKit.Quoted
