import DecoderKit.Command.Outcome
import DecoderKit.Corpus.Line
import DecoderKit.Dump.HexString
import DecoderKit.Table.Conversion

/-!
# What the tools take from elsewhere

Logging, parsing command lines, writing records, printing JSON and decoding hexadecimal
are left to others, and a tool is given them as a kit. What is asked of a tool is what
its parser finds in the words of a command line.
-/

namespace DecoderKit.Command

/-- What can be asked of the table tool. -/
structure TableTool.Request where
  /-- The input; if none, the predefined table. -/
  input : Option Path := none
  /-- Whether column titles come first. -/
  header : Bool := false
  /-- Whether a value that needs more than two digits is refused. -/
  strict : Bool := false
  json : Bool := false
deriving DecidableEq, Repr

/-- What can be asked of the dump tool. -/
structure DumpTool.Request where
  /-- Where a byte list is. -/
  input : Option Path := none
  /-- Hexadecimal digits. -/
  hex : Option Text := none
deriving DecidableEq, Repr

/-- What the tools take from elsewhere. -/
structure Kit where
  log : Log.Library
  corpusParser : Parser Corpus.Request
  tableParser : Parser TableTool.Request
  dumpParser : Parser DumpTool.Request
  recordWriter : Table.RecordWriter
  jsonPrinter : Table.JsonPrinter
  hexDecoder : Dump.HexDecoder

end DecoderKit.Command
