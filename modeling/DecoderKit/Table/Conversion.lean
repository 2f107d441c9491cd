import DecoderKit.Table.Json
import DecoderKit.Table.Reader
import DecoderKit.Table.Writer

/-!
# Converting a table

A table is read, checked and written, as lines or as JSON. The writer of records and the
printer of JSON at the end of the two ways may fail, and then the conversion does.
-/

namespace DecoderKit.Table

/-- What a table is converted to. -/
structure Conversion where
  /-- Whether to write JSON. Then there are no titles. -/
  json : Bool := false
  style : Style := {}
deriving DecidableEq, Repr

namespace Conversion

/-- Writes rows as the conversion asks, with a writer of records and a printer of JSON. -/
def writeUsing (writer : RecordWriter) (printer : JsonPrinter) (conversion : Conversion)
    (rows : List Row) : Except Fault Text :=
  if conversion.json then
    match checkWidth rows conversion.style.width with
    | .error fault => .error fault
    | .ok () => writeJsonWith printer rows
  else writeWith writer conversion.style rows

/-- Converts a text with a writer of records and a printer of JSON. -/
def convertWith (writer : RecordWriter) (printer : JsonPrinter) (conversion : Conversion)
    (t : Text) : Except Fault Text :=
  match read t with
  | .error fault => .error fault
  | .ok rows => conversion.writeUsing writer printer rows

/-- Writes rows as the conversion asks. -/
def write (conversion : Conversion) (rows : List Row) : Except Fault Text :=
  conversion.writeUsing recordWriter jsonPrinter rows

/-- Reads a table and writes it as the conversion asks. -/
def convert (conversion : Conversion) (t : Text) : Except Fault Text :=
  conversion.convertWith recordWriter jsonPrinter t

end Conversion

end DecoderKit.Table
