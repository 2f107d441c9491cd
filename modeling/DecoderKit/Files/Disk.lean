import DecoderKit.Files.IoError
import DecoderKit.Files.Path

/-!
# What a program sees of the files

A program asks three things of the file system: the names in a directory, what a
path leads to, and the content behind a path. All three follow links. A `Disk` is
the answers to all such questions, so a run is a function of it, whatever the
answers come from.
-/

namespace DecoderKit

/-- What a path can lead to. -/
inductive FileKind
  | directory
  /-- A regular file. -/
  | regular
  /-- A device or anything else. -/
  | special
deriving DecidableEq, Repr

/-- The answers of a file system to a program. -/
structure Disk where
  /-- The names in a directory, in the order in which the system lists them. -/
  entries : Path → Except IoError (List Name)
  /-- What a path leads to. -/
  kind : Path → Except IoError FileKind
  /-- The content behind a path. -/
  content : Path → Except IoError Bytes

/-- What has been read, as text. -/
def textOf : Except IoError Bytes → Except IoError Text
  | .error e => .error e
  | .ok bytes =>
    match Utf8.decode? bytes with
    | none => .error .notUtf8
    | some t => .ok t

namespace Disk

/-- The text behind a path. -/
def readText (disk : Disk) (p : Path) : Except IoError Text := textOf (disk.content p)

end Disk

end DecoderKit
