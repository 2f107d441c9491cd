import DecoderKit.Command.PlainKit
import DecoderKit.Command.Tool

/-!
# The command line program

The first argument names the tool. What the run looks at is fetched beforehand;
then the tool is a function of it.
-/

namespace DecoderKit

open Command

/-- The system's error of a number, which some system calls report negated. -/
def systemError (number : UInt32) : IoError :=
  .system number.toInt32.toInt.natAbs

/-- The error that the system has reported. -/
def ioErrorOf : IO.Error → IoError
  | .noFileOrDirectory _ number _ => systemError number
  | .permissionDenied _ number _ => systemError number
  | .inappropriateType _ number _ => systemError number
  | .invalidArgument _ number _ => systemError number
  | .resourceExhausted _ number _ => systemError number
  | .hardwareFault number _ => systemError number
  | .otherError number _ => systemError number
  | e => .worded .other e.toString.toList

/-- An action's answer, with the system's error as a value. -/
def answerOf {α : Type} (action : IO α) : IO (Except IoError α) := do
  match ← action.toBaseIO with
  | .ok a => return .ok a
  | .error e => return .error (ioErrorOf e)

/-- The place of a path in the real file system. -/
def withPlace {α : Type} (path : Path) (action : String → IO α) : IO (Except IoError α) :=
  if path.bytes = [] then return .error .noEntry
  else if 0 ∈ path.bytes then return .error .zeroByte
  else answerOf (action (String.ofList path.display))

/-- The names in a directory. -/
def fetchNames (path : Path) : IO (Except IoError (List Name)) :=
  withPlace path fun place => do
    let entries ← ((← IO.currentDir) / place).readDir
    return entries.toList.map fun entry => Utf8.encode entry.fileName.toList

/-- What a path leads to. -/
def fetchKind (path : Path) : IO (Except IoError FileKind) :=
  withPlace path fun place => do
    let data ← ((← IO.currentDir) / place).metadata
    return match data.type with
      | .dir => .directory
      | .file => .regular
      | _ => .special

/-- The content behind a path. -/
def fetchContent (path : Path) : IO (Except IoError Bytes) :=
  withPlace path fun place => do
    return (← IO.FS.readBinFile place).toList

/-- What can be read of the standard input. -/
def fetchInput : IO (Except IoError Bytes) :=
  answerOf do
    return (← (← IO.getStdin).readBinToEnd).toList

/-- A disk that knows one directory, the kinds of some paths, and one file. -/
def knownDisk (names : Except IoError (List Name)) (kinds : List (Path × Except IoError FileKind))
    (content : Except IoError Bytes) : Disk where
  entries _ := names
  kind p := (kinds.lookup p).getD (.error .noEntry)
  content _ := content

/-- Fetches what a run looks at. -/
def fetchHost (tool : Tool) (words : List Bytes) : IO Host := do
  let environment : Environment :=
    { corpus := (← IO.getEnv corpusVariable).map fun s => Utf8.encode s.toList
      log := (← IO.getEnv "RUST_LOG").map fun s => Utf8.encode s.toList }
  let mut names : Except IoError (List Name) := .error .noEntry
  let mut kinds : List (Path × Except IoError FileKind) := []
  let mut content : Except IoError Bytes := .error .noEntry
  let mut input : Except IoError Bytes := .ok []
  if let some directory := tool.directory? plainKit environment words then
    names ← fetchNames directory
    if let .ok found := names then
      kinds ← found.mapM fun name => do
        let path := directory.join name
        return (path, ← fetchKind path)
  if let some path := tool.input? plainKit environment words then
    if path.isStandardInput then input ← fetchInput
    else content ← fetchContent path
  return { disk := knownDisk names kinds content, input, environment }

/-- The tool of a name. -/
def tool? : String → Option Tool
  | "corpus" => some .corpus
  | "table" => some .table
  | "dump" => some .dump
  | _ => none

/-- Runs the tool that the arguments name. -/
def runTool (arguments : List String) : IO UInt32 := do
  let name :: words := arguments | usage
  let some tool := tool? name | usage
  let words := words.map fun word => Utf8.encode word.toList
  let outcome := tool.run plainKit (← fetchHost tool words) words
  (← IO.getStdout).putStr (String.ofList outcome.output)
  (← IO.getStderr).putStr (String.ofList outcome.errorOutput)
  return UInt32.ofNat outcome.exitCode
where
  usage : IO UInt32 := do
    (← IO.getStderr).putStrLn "usage: (corpus | table | dump) [ARGUMENTS]"
    return 2

end DecoderKit

def main (arguments : List String) : IO UInt32 := DecoderKit.runTool arguments
