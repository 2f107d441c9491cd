import DecoderKit.Files.IoError
import DecoderKit.Files.Path
import DecoderKit.Table.JsonFault
import DecoderKit.Table.Row

/-!
# Faults

Everything that can go wrong in this library is a `Fault`: a cause with the data
that belongs to it. Its `message` names the cause, its `hint` tells the user what
to do. A `Diagnosis` is what a tool says when it fails, and it keeps the text of
the error beneath.
-/

namespace DecoderKit

/-- What can go wrong. -/
inductive Fault
  /-- The directory does not exist. -/
  | notFound (path : Path)
  /-- The directory may not be read. -/
  | accessDenied (path : Path)
  /-- A line is no row, or a row is refused. Lines count from one. -/
  | malformedRow (line : Nat) (reason : RowFault)
  /-- An item of a byte dump is no byte. Items count from zero. -/
  | malformedByte (index : Nat) (token : Text)
  /-- Writing JSON failed. -/
  | json (fault : JsonFault)
  /-- Writing records failed. -/
  | record (error : IoError)
  /-- An operation on files failed. -/
  | io (error : IoError)
deriving DecidableEq, Repr

/-- The environment variable that names the corpus directory. -/
def corpusVariable : String := "CORPUS_DIR"

namespace Fault

/-- An I/O error met at a path, by its kind. -/
def ofIo (path : Path) (error : IoError) : Fault :=
  match error.kind with
  | .notFound => .notFound path
  | .permissionDenied => .accessDenied path
  | _ => .io error

/-- The cause in words. -/
def message : Fault → Text
  | .notFound path => "directory not found: ".toList ++ path.display
  | .accessDenied path => "access denied: ".toList ++ path.display
  | .malformedRow line reason =>
    "malformed row at line ".toList ++ Numeral.decimal line ++ ": ".toList ++ reason.text
  | .malformedByte index token =>
    "malformed byte #".toList ++ Numeral.decimal index ++ ": ".toList ++ Quoted.quote token
  | .json fault => "JSON error: ".toList ++ fault.text
  | .record error => "CSV error: ".toList ++ error.text
  | .io error => "I/O error: ".toList ++ error.text

/-- What to do about it. -/
def hint : Fault → Text
  | .notFound path =>
    "directory '".toList ++ path.display ++ "' not found. Pass a directory or set ".toList
      ++ corpusVariable.toList ++ ".".toList
  | .accessDenied path =>
    "cannot read '".toList ++ path.display
      ++ "'. Check permissions or run as a different user.".toList
  | .malformedRow line reason =>
    "line ".toList ++ Numeral.decimal line ++ ": ".toList ++ reason.text
      ++ ". Each row needs four non-negative integers.".toList
  | .malformedByte index token =>
    "byte #".toList ++ Numeral.decimal index ++ " (".toList ++ Quoted.quote token
      ++ ") is not a value in 0..=255.".toList
  | .json fault => fault.text
  | .record error => error.text
  | .io error => error.text

/-- The text of the error beneath, where there is one. -/
def cause? : Fault → Option Text
  | .json fault => some fault.text
  | .record error => some error.text
  | .io error => some error.text
  | _ => none

end Fault

/-- What a tool says when it fails. -/
structure Diagnosis where
  /-- The line for the user. -/
  message : Text
  /-- The text of the error beneath. -/
  source : Option Text
deriving DecidableEq, Repr

namespace Diagnosis

/-- A fault met while doing something. -/
def ofFault (activity : String) (fault : Fault) : Diagnosis where
  message := activity.toList ++ ": ".toList ++ fault.hint
  source := some fault.message

/-- What to do about an I/O error. -/
def advice : IoError.Kind → String
  | .notFound => "Check that the file exists and the path is correct."
  | .permissionDenied => "Check permissions or run as a different user."
  | .invalidData => "Input must be UTF-8 text."
  | _ => "Check the path and try again."

/-- An I/O error met by an operation at a path, in words. -/
def ioText (operation : Text) (path : Path) (error : IoError) : Text :=
  "Error ".toList ++ operation ++ " '".toList ++ path.display ++ "': ".toList ++ error.text
    ++ ". ".toList ++ (advice error.kind).toList

/-- An I/O error met by an operation at a path. -/
def ofIo (operation : Text) (path : Path) (error : IoError) : Diagnosis where
  message := ioText operation path error
  source := some error.text

end Diagnosis

end DecoderKit
