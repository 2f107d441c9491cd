import DecoderKit.Text.Numeral
import DecoderKit.Text.Quoted
import DecoderKit.Text.Split

/-!
# Rows of a decoding table

A row is one entry of a decoding table. In the reference it is a line of four
columns: state, symbol, number of bits, baseline. In source code it is written
with the columns in another order, state and baseline in hexadecimal, the symbol
behind the letter `s`.

A line that is no row is refused for one reason. The number of columns is looked
at first; then the leftmost column that is no 32-bit number decides.
-/

namespace DecoderKit

/-- An entry of a decoding table. -/
structure Row where
  state : UInt32
  symbol : UInt32
  /-- The number of bits to read for the next state. -/
  bits : UInt32
  baseline : UInt32
deriving DecidableEq, Repr

/-- Why a line is no row, or why a row is refused. -/
inductive RowFault
  /-- The line has another number of columns than four. -/
  | columnCount (found : Nat)
  /-- A column is a number above the greatest 32-bit one. -/
  | tooLarge (column : Text)
  /-- A column is no number. -/
  | notANumber (column : Text)
  /-- Two hexadecimal digits are too few for the state or the baseline. -/
  | tooWide (state baseline : UInt32)
  /-- A reason in the words of a caller. -/
  | worded (reason : Text)
deriving DecidableEq, Repr

/-- The reason as it is told to the user. -/
def RowFault.text : RowFault → Text
  | .columnCount found => "expected 4 fields, found ".toList ++ Numeral.decimal found
  | .tooLarge column => Quoted.quote column ++ " is larger than 4294967295".toList
  | .notANumber column => Quoted.quote column ++ " is not a non-negative integer".toList
  | .tooWide state baseline =>
    "state ".toList ++ Numeral.decimal state.toNat ++ " or baseline ".toList
      ++ Numeral.decimal baseline.toNat ++ " does not fit in two hex digits".toList
  | .worded reason => reason

namespace Row

/-- The greatest number that a column holds. -/
def columnBound : Nat := 4294967295

theorem toNat_le_columnBound (v : UInt32) : v.toNat ≤ columnBound :=
  Nat.le_of_lt_succ v.toNat_lt

/-- Reads one column. -/
def readColumn (column : Text) : Except RowFault UInt32 :=
  match Numeral.read 10 columnBound column with
  | .ok n => .ok (UInt32.ofNat n)
  | .error .tooLarge => .error (.tooLarge column)
  | .error .malformed => .error (.notANumber column)

/-- Reads a line of the reference as a row. -/
def ofLine (line : Text) : Except RowFault Row :=
  match Text.words line with
  | [state, symbol, bits, baseline] => do
    let state ← readColumn state
    let symbol ← readColumn symbol
    let bits ← readColumn bits
    let baseline ← readColumn baseline
    return { state, symbol, bits, baseline }
  | columns => .error (.columnCount columns.length)

/-- Whether two hexadecimal digits are enough for the state and for the baseline. -/
def fitsByte (row : Row) : Bool := decide (row.state ≤ 0xff) && decide (row.baseline ≤ 0xff)

/-- A number in hexadecimal with its marker, in two digits or more. -/
def hexField (n : UInt32) : Text := ['0', 'x'] ++ Numeral.hexByte n.toNat

/-- The fields of a row as they stand in source code. -/
def fields (row : Row) : List Text :=
  [hexField row.state, 's' :: Numeral.decimal row.symbol.toNat,
   hexField row.baseline, Numeral.decimal row.bits.toNat]

/-- A row as one line, without a line feed. -/
def text (row : Row) : Text := [','].intercalate row.fields

end Row

end DecoderKit
