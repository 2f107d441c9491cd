import DecoderKit.Command.CorpusTool
import DecoderKit.Command.DumpTool
import DecoderKit.Command.TableTool

/-!
# The tools

The three tools, and what each of them looks at on the disk. A run looks at no
more than that, so a host need not know the rest.
-/

namespace DecoderKit.Command

/-- The tools of this kit. -/
inductive Tool
  /-- Lists a corpus. -/
  | corpus
  /-- Converts a decoding table. -/
  | table
  /-- Shows a byte dump. -/
  | dump
deriving DecidableEq, Repr

/-- The arguments that a parser has found. -/
def Parsed.given? {α : Type} : Parsed α → Option α
  | .given arguments => some arguments
  | _ => none

namespace Tool

/-- Runs a tool. -/
def run : Tool → Kit → Host → List Bytes → Outcome
  | .corpus => CorpusTool.run
  | .table => TableTool.run
  | .dump => DumpTool.run

/-- The directory that a run lists. -/
def directory? (tool : Tool) (kit : Kit) (environment : Environment) (words : List Bytes) :
    Option Path :=
  match tool with
  | .corpus => (kit.corpusParser environment words).given?.map (·.directory)
  | _ => none

/-- The input that a run reads: a file or the standard input. -/
def input? (tool : Tool) (kit : Kit) (environment : Environment) (words : List Bytes) :
    Option Path :=
  match tool with
  | .corpus => none
  | .table => (kit.tableParser environment words).given?.bind (·.input)
  | .dump => (kit.dumpParser environment words).given?.bind (·.input)

end Tool

end DecoderKit.Command
