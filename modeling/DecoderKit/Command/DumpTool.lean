import DecoderKit.Command.Input
import DecoderKit.Command.Kit
import DecoderKit.Dump.ByteList
import DecoderKit.Dump.Description

/-!
# The dump tool

Prints a byte dump as text, with its length. The dump is a byte list from a file or
the standard input, or contiguous hexadecimal on the command line, or else the
sample.
-/

namespace DecoderKit.Command.DumpTool

open Log (Reporting report)

/-- Reads a byte list and reports how long it is. -/
def readList (t : Text) : Reporting (Except Fault Bytes) :=
  match Dump.readList t with
  | .error fault => return .error fault
  | .ok bytes => do
    report (.listRead bytes.length)
    return .ok bytes

/-- The bytes that are asked for. A list comes before digits. -/
def bytes (kit : Kit) (host : Host) (request : Request) : Reporting (Except Diagnosis Bytes) :=
  match request.input, request.hex with
  | some path, _ =>
    match host.read path with
    | .error diagnosis => return .error diagnosis
    | .ok t => do
      let bytes ← readList t
      return bytes.mapError (.ofFault "parsing byte list")
  | none, some digits =>
    return (Dump.readHexWith kit.hexDecoder digits).mapError (.ofFault "parsing hex")
  | none, none => return .ok Dump.sample

/-- What the tool does for a request. -/
def program (kit : Kit) (host : Host) (request : Request) : Reporting (Except Diagnosis Text) := do
  let bytes ← bytes kit host request
  return bytes.map fun bytes => Dump.describe bytes ++ ['\n']

/-- Runs the tool. -/
def run (kit : Kit) (host : Host) (words : List Bytes) : Outcome :=
  host.run kit.log kit.dumpParser (program kit host) words

end DecoderKit.Command.DumpTool
