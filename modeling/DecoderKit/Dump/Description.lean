import DecoderKit.Text.Numeral
import DecoderKit.Text.Utf8

/-!
# Bytes as text

A dump is shown with one character for each byte, the character of the same code
point, so that nothing is lost to decoding. Its length follows behind a space.
-/

namespace DecoderKit.Dump

/-- Each byte as the character with its code point. -/
def toText (bytes : Bytes) : Text := bytes.map fun b => Char.ofNat b.toNat

/-- The text of a dump and its number of bytes. -/
def describe (bytes : Bytes) : Text := toText bytes ++ ' ' :: Numeral.decimal bytes.length

/-- The content of a frame with two files, shown when no dump is given. -/
def sample : Bytes := Utf8.encode "This is the content offirst file.\nsecond file.".toList

end DecoderKit.Dump
