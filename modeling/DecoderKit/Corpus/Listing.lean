import DecoderKit.Corpus.Line
import DecoderKit.Log.Library

/-!
# Listing a corpus aloud

The files of a corpus are looked up and joined in loops that report on their way: what is
listed, which entries are left out and why, how many files there are, and which of them
are printed as something that they are not. An entry that is left out does not stop the
loop, and neither does a warning.
-/

namespace DecoderKit.Corpus

open Log (Reporting report)

/-- Looks at the names in a directory one after the other, and keeps the paths of the files. -/
def collect (disk : Disk) (directory : Path) : List Name → Reporting (List Path)
  | [] => return []
  | name :: rest => do
    let path := directory.join name
    match disk.kind path with
    | .ok .regular =>
      let paths ← collect disk directory rest
      return path :: paths
    | .ok _ =>
      report (.nonFile path)
      collect disk directory rest
    | .error error =>
      report (.unreadable path error)
      collect disk directory rest

/-- Lists the files of a directory, in the order in which the system names them. -/
def list (disk : Disk) (directory : Path) : Reporting (Except Fault (List Path)) := do
  report (.listing directory)
  match disk.entries directory with
  | .error error => return .error (.ofIo directory error)
  | .ok names =>
    let paths ← collect disk directory names
    report (.seedsFound paths.length)
    return .ok paths

/-- The texts of paths. A path that is no text is warned about. -/
def displayAll : List Path → Reporting (List Text)
  | [] => return []
  | path :: rest => do
    if !path.isText then report (.notText path)
    let texts ← displayAll rest
    return path.display :: texts

/-- Joins paths to one comma separated text. -/
def join (paths : List Path) : Reporting Text := do
  let texts ← displayAll paths
  return [','].intercalate texts

/-- Lists a corpus as a request asks for. -/
def Request.print (request : Request) (disk : Disk) : Reporting (Except Fault Text) := do
  match ← list disk request.directory with
  | .error fault => return .error fault
  | .ok paths => return .ok (← join (request.arrange paths))

end DecoderKit.Corpus
