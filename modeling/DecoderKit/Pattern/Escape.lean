import DecoderKit.Pattern.Layout
import DecoderKit.Text.Numeral

/-!
# Escapes in patterns

What a backslash and the characters behind it stand for. A sign of punctuation stands
for itself. Letters stand for control characters, for places between characters, for
the classes of digits, blanks and word characters, or begin a code point in
hexadecimal. A digit would refer back to a group, which no pattern here can do, and
classes by property need tables that this library does not have: both are refused, as
are letters without a meaning.
-/

namespace DecoderKit.Pattern

/-- What an escape stands for. -/
inductive Escape
  /-- A character. It may be given as a byte, by two hexadecimal digits. -/
  | char (c : Char) (asByte : Bool)
  /-- A place between characters, which may be the end of a word. -/
  | boundary (ofWord : Bool)
  /-- The digits, the blanks or the word characters, or all others. -/
  | wordClass (negated : Bool)
deriving DecidableEq, Repr

/-- Whether a character stands for itself behind a backslash. -/
def isPunctuation (c : Char) : Bool :=
  decide (c.toNat < 128) && !c.isAlphanum && c != '<' && c != '>'

/-- Reads a number of hexadecimal digits, going on from a value already read. -/
def readHexDigits (spaced : Bool) : Nat → Nat → Text → Option (Nat × Text)
  | 0, value, t => some (value, t)
  | n + 1, value, t =>
    match skip spaced t with
    | [] => none
    | c :: rest =>
      match Numeral.digit? 16 c with
      | none => none
      | some d => readHexDigits spaced n (value * 16 + d) rest

/-- Reads a character by the hexadecimal digits of its code point. -/
def readCodePoint? (spaced : Bool) (digits : Nat) (t : Text) : Option (Escape × Text) :=
  match readHexDigits spaced digits 0 t with
  | none => none
  | some (value, rest) =>
    if value.isValidChar then some (.char (Char.ofNat value) (digits == 2), rest) else none

/-- The escapes of one letter. -/
def letterEscapes : List (Char × Escape) :=
  [('a', .char '\x07' false), ('f', .char '\x0c' false), ('t', .char '\t' false),
   ('n', .char '\n' false), ('r', .char '\r' false), ('v', .char '\x0b' false),
   ('A', .boundary false), ('z', .boundary false), ('b', .boundary true), ('B', .boundary true),
   ('<', .boundary true), ('>', .boundary true), ('d', .wordClass false), ('s', .wordClass false),
   ('w', .wordClass false), ('D', .wordClass true), ('S', .wordClass true),
   ('W', .wordClass true)]

/-- Reads an escape behind its backslash, and gives back what follows it. -/
def readEscape? (spaced : Bool) : Text → Option (Escape × Text)
  | [] => none
  | 'x' :: rest => readCodePoint? spaced 2 rest
  | 'u' :: rest => readCodePoint? spaced 4 rest
  | 'U' :: rest => readCodePoint? spaced 8 rest
  | c :: rest =>
    if isPunctuation c then some (.char c false, rest)
    else (letterEscapes.lookup c).map (·, rest)

end DecoderKit.Pattern
