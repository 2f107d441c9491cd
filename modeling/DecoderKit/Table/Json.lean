import DecoderKit.Fault
import DecoderKit.Json.Layout

/-!
# A decoding table as JSON

An array with an object for each row. The keys are those of the reference's columns,
in its order.

The array is given to a printer that knows nothing of tables. It may fail, and then the
table fails with its fault.
-/

namespace DecoderKit

/-- A row as an object. -/
def Row.toJson (row : Row) : JsonValue :=
  .object [("state".toList, .number row.state.toNat), ("symbol".toList, .number row.symbol.toNat),
    ("num_bits".toList, .number row.bits.toNat), ("baseline".toList, .number row.baseline.toNat)]

namespace Table

/-- Rows as an array. -/
def toJson (rows : List Row) : JsonValue := .array (rows.map Row.toJson)

/-- A printer of JSON: the text of a value, or the fault that stopped it. -/
abbrev JsonPrinter := JsonValue → Except JsonFault Text

/-- The printer that lays a value out on lines. -/
def jsonPrinter : JsonPrinter := fun v => .ok (v.layOut 0)

/-- Writes rows with a printer of JSON. -/
def writeJsonWith (printer : JsonPrinter) (rows : List Row) : Except Fault Text :=
  match printer (toJson rows) with
  | .error fault => .error (.json fault)
  | .ok text => .ok text

/-- Rows as the text of a JSON array. -/
def writeJson (rows : List Row) : Text := (toJson rows).layOut 0

end Table

end DecoderKit
