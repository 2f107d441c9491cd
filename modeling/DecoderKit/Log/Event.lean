import DecoderKit.Files.IoError
import DecoderKit.Files.Path

/-!
# Log events

What a run reports besides its result. An event is data: how much it matters, where it
comes from, what has happened, and named values that say to what. How it is written, and
whether it is, is not decided here.
-/

namespace DecoderKit.Log

/-- How much an event matters. -/
inductive Level
  | error
  | warn
  | info
  | debug
  | trace
deriving DecidableEq, Repr

/-- The number of levels up to this one, the gravest first. -/
def Level.rank : Level → Nat
  | .error => 1
  | .warn => 2
  | .info => 3
  | .debug => 4
  | .trace => 5

/-- The name of a level in the log. -/
def Level.name : Level → String
  | .error => "ERROR"
  | .warn => "WARN"
  | .info => "INFO"
  | .debug => "DEBUG"
  | .trace => "TRACE"

/-- Something that a run reports. -/
inductive Event
  /-- A corpus directory is about to be listed. -/
  | listing (directory : Path)
  /-- An entry is no file. -/
  | nonFile (path : Path)
  /-- An entry leads nowhere. -/
  | unreadable (path : Path) (error : IoError)
  /-- A corpus has been listed. -/
  | seedsFound (count : Nat)
  /-- A printed path is not the path itself. -/
  | notText (path : Path)
  /-- A table has been read. -/
  | tableRead (rows : Nat)
  /-- A byte list has been read. -/
  | listRead (length : Nat)
deriving DecidableEq, Repr

/-- The parts of the program that report. -/
inductive Origin
  | corpus
  | table
  | byteList
deriving DecidableEq, Repr

/-- The name of a part, behind that of the program. -/
def Origin.name : Origin → String
  | .corpus => "zstd_devtools::corpus"
  | .table => "zstd_devtools::table"
  | .byteList => "zstd_devtools::raw"

namespace Event

/-- The part of the program that reports an event. -/
def origin : Event → Origin
  | .tableRead _ => .table
  | .listRead _ => .byteList
  | _ => .corpus

/-- How much an event matters. -/
def level : Event → Level
  | .notText _ => .warn
  | _ => .debug

/-- What has happened. -/
def message : Event → String
  | .listing _ => "listing corpus directory"
  | .nonFile _ => "skipping non-file entry"
  | .unreadable _ _ => "skipping unreadable entry"
  | .seedsFound _ => "corpus files found"
  | .notText _ => "path is not valid UTF-8; printed form will not resolve"
  | .tableRead _ => "parsed table"
  | .listRead _ => "parsed byte list"

/-- What it has happened to: named values. -/
def details : Event → List (String × Text)
  | .listing directory => [("dir", directory.display)]
  | .nonFile path => [("path", path.display)]
  | .unreadable path error => [("path", path.display), ("err", error.text)]
  | .seedsFound count => [("count", Numeral.decimal count)]
  | .notText path => [("path", path.quoted)]
  | .tableRead rows => [("rows", Numeral.decimal rows)]
  | .listRead length => [("len", Numeral.decimal length)]

/-- The names of all that an event carries. -/
def fieldNames (event : Event) : List String := "message" :: event.details.map Prod.fst

end Event

end DecoderKit.Log
