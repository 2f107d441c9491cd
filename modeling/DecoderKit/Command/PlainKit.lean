import DecoderKit.Command.Arguments
import DecoderKit.Command.Kit
import DecoderKit.Log.PlainLog

/-!
# A plain kit

The kit that the tools come with, and with it the command lines that they understand. Each
tool has options of its own, and the corpus tool has an operand, for which the environment
or a default can stand in.
-/

namespace DecoderKit.Command

/-- What comes of reading words, with the texts for those that want help or need it. -/
def Parsed.ofRead {α : Type} (help misuse : Text) (request? : Arguments → Option α) :
    Except Stop Arguments → Parsed α
  | .error .help => .help help
  | .error .misuse => .misused misuse
  | .ok arguments =>
    match request? arguments with
    | none => .misused misuse
    | some request => .given request

/-- Lines one below the other. -/
def linesText (lines : List String) : Text := lines.flatMap fun line => line.toList ++ ['\n']

namespace TableTool

/-- The options of the tool. -/
def options : Options :=
  [("input", .value), ("header", .switch), ("strict", .switch), ("json", .switch),
    ("help", .help)]

/-- The help text. -/
def help : Text := linesText
  ["Rewrite `state symbol bits baseline` rows as `0xSS,sN,0xBB,N` lines", "",
    "Usage: fse_table_fmt [OPTIONS]", "",
    "Options:",
    "      --input <INPUT>  Table file to read (\"-\" for stdin). Defaults to the predefined "
      ++ "offset-code",
    "                       table",
    "      --header         Print a `State,Sym,BL,NB` header line first",
    "      --strict         Fail on states or baselines above 0xff instead of widening them",
    "      --json           Print rows as a JSON array",
    "  -h, --help           Print help"]

/-- What is said of misused words. -/
def usage : Text :=
  linesText ["usage: fse_table_fmt [--input INPUT] [--strict] [--header | --json]"]

/-- What arguments ask for. JSON has no header, so asking for both is refused. -/
def request? (given : Arguments) : Option Request := do
  let input ← given.path? "input"
  let header := given.has "header"
  let json := given.has "json"
  if given.operands ≠ [] ∨ (json ∧ header) then none
  else return { input, header, strict := given.has "strict", json }

/-- The command lines of the tool. -/
def parser : Parser Request := fun _ words =>
  .ofRead help usage request? (Arguments.read options {} words)

end TableTool

namespace DumpTool

/-- The options of the tool. -/
def options : Options := [("input", .value), ("hex", .value), ("help", .help)]

/-- The help text. -/
def help : Text := linesText
  ["Print a byte dump as text followed by its length", "",
    "Usage: raw_text [OPTIONS]", "",
    "Options:",
    "      --input <INPUT>  File holding a byte list like `[0x54, 0x68]` (\"-\" for stdin)",
    "      --hex <HEX>      Contiguous hex digits, e.g. 5468697320",
    "  -h, --help           Print help"]

/-- What is said of misused words. -/
def usage : Text := linesText ["usage: raw_text [--input INPUT | --hex HEX]"]

/-- What arguments ask for. Two dumps at once are refused, and digits that are no text. -/
def request? (given : Arguments) : Option Request := do
  let input ← given.path? "input"
  if given.operands ≠ [] then none
  else
    match given.value? "hex" with
    | none => return { input }
    | some digits =>
      match input, Utf8.decode? digits with
      | none, some digits => return { hex := digits }
      | _, _ => none

/-- The command lines of the tool. -/
def parser : Parser Request := fun _ words =>
  .ofRead help usage request? (Arguments.read options {} words)

end DumpTool

namespace CorpusTool

/-- The options of the tool. -/
def options : Options := [("sorted", .switch), ("help", .help)]

/-- The help text, which shows the value of the variable. -/
def help (environment : Environment) : Text :=
  linesText
      ["Print the regular files of a fuzz corpus directory as one comma separated line", "",
        "Usage: corpus_list [OPTIONS] [DIR]", "",
        "Arguments:"]
    ++ "  [DIR]  Corpus directory to list [env: CORPUS_DIR=".toList
    ++ Utf8.decodeLossy (environment.corpus.getD []) ++ "] [default: ".toList
    ++ Corpus.defaultDirectory.toList
    ++ linesText
      ["]", "",
        "Options:",
        "      --sorted  Sort the paths instead of keeping directory order",
        "  -h, --help    Print help"]

/-- What is said of misused words. -/
def usage : Text := linesText ["usage: corpus_list [--sorted] [DIR]"]

/-- What words say by themselves. -/
structure Line where
  /-- The directory, if there is one. -/
  directory : Option Path
  sorted : Bool
deriving DecidableEq, Repr

/-- What words say by themselves, if they say anything. There is one directory at most, and it has
a name. -/
def line (words : List Bytes) : Except Stop Line := do
  let given ← Arguments.read options {} words
  match given.operands with
  | [] => return { directory := none, sorted := given.has "sorted" }
  | [operand] =>
    if operand = [] then .error .misuse
    else return { directory := some ⟨operand⟩, sorted := given.has "sorted" }
  | _ => .error .misuse

/-- The command lines of the tool. The variable stands in for the directory, and the default for
the variable. -/
def parser : Parser Corpus.Request := fun environment words =>
  match line words with
  | .error .help => .help (help environment)
  | .error .misuse => .misused usage
  | .ok { directory := some directory, sorted } => .given { directory, sorted }
  | .ok { directory := none, sorted } =>
    match environment.corpus with
    | none => .given { sorted }
    | some bytes => if bytes = [] then .misused usage else .given { directory := ⟨bytes⟩, sorted }

end CorpusTool

/-- The kit that the tools come with. -/
def plainKit : Kit where
  log := Log.plainLog
  corpusParser := CorpusTool.parser
  tableParser := TableTool.parser
  dumpParser := DumpTool.parser
  recordWriter := Table.recordWriter
  jsonPrinter := Table.jsonPrinter
  hexDecoder := Dump.hexDecoder

end DecoderKit.Command
