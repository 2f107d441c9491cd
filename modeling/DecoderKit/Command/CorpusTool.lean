import DecoderKit.Command.Kit
import DecoderKit.Corpus.Listing

/-!
# The corpus tool

Prints the seed files of a directory on one line.
-/

namespace DecoderKit.Command.CorpusTool

/-- What the tool does for a request. -/
def program (host : Host) (request : Corpus.Request) : Log.Reporting (Except Diagnosis Text) := do
  match ← request.print host.disk with
  | .error fault => return .error (.ofFault "listing corpus" fault)
  | .ok line => return .ok (line ++ ['\n'])

/-- Runs the tool. -/
def run (kit : Kit) (host : Host) (words : List Bytes) : Outcome :=
  host.run kit.log kit.corpusParser (program host) words

end DecoderKit.Command.CorpusTool
