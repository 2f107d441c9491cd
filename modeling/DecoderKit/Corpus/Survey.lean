import DecoderKit.Fault
import DecoderKit.Files.Disk

/-!
# The files of a corpus

A corpus is a directory of seed files. A survey looks at each of its entries once,
through links, and says what it is; only regular files belong to the corpus. What
is wrong with an entry never spoils the survey: only the directory itself can.
-/

namespace DecoderKit.Corpus

/-- An entry of a corpus directory, by its path. -/
inductive Entry
  /-- A regular file, or a link to one. -/
  | seed (path : Path)
  /-- Something else. -/
  | nonFile (path : Path)
  /-- An entry that leads nowhere. -/
  | unreadable (path : Path) (error : IoError)
deriving DecidableEq, Repr

/-- The path of a seed file. -/
def Entry.seed? : Entry → Option Path
  | .seed path => some path
  | _ => none

/-- What a path in a corpus directory is. -/
def classify (disk : Disk) (path : Path) : Entry :=
  match disk.kind path with
  | .ok .regular => .seed path
  | .ok _ => .nonFile path
  | .error e => .unreadable path e

/-- The entries of a corpus directory, in the order of the listing. -/
def survey (disk : Disk) (directory : Path) : Except Fault (List Entry) :=
  match disk.entries directory with
  | .error e => .error (.ofIo directory e)
  | .ok names => .ok (names.map fun name => classify disk (directory.join name))

/-- The seed files among entries. -/
def seeds (entries : List Entry) : List Path := entries.filterMap Entry.seed?

/-- The seed files of a corpus directory, in the order of the listing. -/
def files (disk : Disk) (directory : Path) : Except Fault (List Path) :=
  (survey disk directory).map seeds

end DecoderKit.Corpus
