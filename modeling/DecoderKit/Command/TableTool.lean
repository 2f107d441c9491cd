import DecoderKit.Command.Input
import DecoderKit.Command.Kit
import DecoderKit.Table.OffsetCodes

/-!
# The table tool

Reads a decoding table and prints it as lines or as JSON. Everything is written
before anything is printed, so a fault leaves the output empty. Without an input
the predefined table of offset codes is converted.
-/

namespace DecoderKit.Command.TableTool

open Log (Reporting report)

/-- How the rows are to be written. -/
def Request.style (request : Request) : Table.Style where
  header := request.header
  width := if request.strict then .strict else .widen

/-- What the table is to be converted to. -/
def Request.conversion (request : Request) : Table.Conversion where
  json := request.json
  style := request.style

/-- The text of the table that is asked for. -/
def text (host : Host) (request : Request) : Except Diagnosis Text :=
  match request.input with
  | none => .ok Table.offsetCodeText
  | some path => host.read path

/-- Reads a table and reports how long it is. -/
def readTable (t : Text) : Reporting (Except Fault (List Row)) :=
  match Table.read t with
  | .error fault => return .error fault
  | .ok rows => do
    report (.tableRead rows.length)
    return .ok rows

/-- The output for rows. JSON is given the line feed that it does not end with. -/
def render (kit : Kit) (request : Request) (rows : List Row) : Except Diagnosis Text :=
  if request.json then
    match Table.checkWidth rows request.style.width with
    | .error fault => .error (.ofFault "formatting table" fault)
    | .ok () =>
      match Table.writeJsonWith kit.jsonPrinter rows with
      | .error fault => .error (.ofFault "rendering JSON" fault)
      | .ok json => .ok (json ++ ['\n'])
  else
    match Table.writeWith kit.recordWriter request.style rows with
    | .error fault => .error (.ofFault "formatting table" fault)
    | .ok lines => .ok lines

/-- What the tool does for a request. -/
def program (kit : Kit) (host : Host) (request : Request) : Reporting (Except Diagnosis Text) :=
  match text host request with
  | .error diagnosis => return .error diagnosis
  | .ok t => do
    match ← readTable t with
    | .error fault => return .error (.ofFault "parsing table" fault)
    | .ok rows => return render kit request rows

/-- Runs the tool. -/
def run (kit : Kit) (host : Host) (words : List Bytes) : Outcome :=
  host.run kit.log kit.tableParser (program kit host) words

end DecoderKit.Command.TableTool
