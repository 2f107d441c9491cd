import DecoderKit.Fault
import DecoderKit.Text.Record

/-!
# Writing a decoding table

Rows are written as comma separated records, after a line of column titles if one
is wanted. States and baselines above `0xff` either widen their field or, in strict
writing, make the whole table fail before anything is written.

The records themselves are given to a writer that knows nothing of tables. It may
fail, and then the table fails with its error.
-/

namespace DecoderKit.Table

/-- What to do with a state or a baseline that two hexadecimal digits cannot hold. -/
inductive HexWidth
  /-- Use as many digits as it takes. -/
  | widen
  /-- Refuse the row. -/
  | strict
deriving DecidableEq, Repr

/-- How a table is written. -/
structure Style where
  /-- Whether column titles come first. -/
  header : Bool := false
  width : HexWidth := .widen
deriving DecidableEq, Repr

/-- The column titles. -/
def titles : List String := ["State", "Sym", "BL", "NB"]

/-- Refuses the first row that does not fit, in strict writing. Rows count from one. -/
def checkWidth (rows : List Row) : HexWidth → Except Fault Unit
  | .widen => .ok ()
  | .strict =>
    match (rows.zipIdx 1).find? fun row => !row.1.fitsByte with
    | none => .ok ()
    | some (row, number) => .error (.malformedRow number (.tooWide row.state row.baseline))

/-- Rows as records, after the titles if they are wanted. -/
def records (header : Bool) (rows : List Row) : List (List Text) :=
  (if header then [titles.map String.toList] else []) ++ rows.map Row.fields

/-- A writer of records: the text of all of them, or the error that stopped it. -/
abbrev RecordWriter := List (List Text) → Except IoError Text

/-- The writer that keeps its text in memory. -/
def recordWriter : RecordWriter := fun records => .ok (records.flatMap Record.write)

/-- Writes a table with a writer of records. -/
def writeWith (writer : RecordWriter) (style : Style) (rows : List Row) : Except Fault Text :=
  match checkWidth rows style.width with
  | .error fault => .error fault
  | .ok () =>
    match writer (records style.header rows) with
    | .error error => .error (.record error)
    | .ok text => .ok text

/-- Writes a table. -/
def write (style : Style) (rows : List Row) : Except Fault Text :=
  writeWith recordWriter style rows

end DecoderKit.Table
