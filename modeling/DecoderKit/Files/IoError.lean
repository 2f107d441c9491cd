import DecoderKit.Files.ErrorText

/-!
# Input and output errors

An operation on files fails with a number from the system, or with an error that a
library on the way has raised: a kind, and with it perhaps a message. Only the kind
decides what the user is told to do about it; the text names the error itself.
-/

namespace DecoderKit

/-- The kinds of error that callers tell apart. -/
inductive IoError.Kind
  | notFound
  | permissionDenied
  | alreadyExists
  | invalidInput
  | invalidData
  | unexpectedEof
  | interrupted
  | other
deriving DecidableEq, Repr

/-- An error of an operation on files. -/
inductive IoError
  /-- The system's error with this number. -/
  | system (number : Int)
  /-- An error with words of its own. -/
  | worded (kind : IoError.Kind) (message : Text)
  /-- An error of which only the kind is known. -/
  | ofKind (kind : IoError.Kind)
deriving DecidableEq, Repr

namespace IoError

/-- What is said of an error of which only the kind is known. -/
def Kind.text : Kind → String
  | .notFound => "entity not found"
  | .permissionDenied => "permission denied"
  | .alreadyExists => "entity already exists"
  | .invalidInput => "invalid input parameter"
  | .invalidData => "invalid data"
  | .unexpectedEof => "unexpected end of file"
  | .interrupted => "operation interrupted"
  | .other => "other error"

/-- The kind of a system error. Most numbers have none of their own. -/
def kindOfNumber (number : Int) : Kind :=
  if number = 2 then .notFound
  else if number = 1 ∨ number = 13 then .permissionDenied
  else if number = 4 then .interrupted
  else if number = 17 then .alreadyExists
  else if number = 22 then .invalidInput
  else .other

/-- The kind of an error. -/
def kind : IoError → Kind
  | .system number => kindOfNumber number
  | .worded kind _ => kind
  | .ofKind kind => kind

/-- The text of an error. -/
def text : IoError → Text
  | .system number =>
    Files.errorText number ++ " (os error ".toList ++ Numeral.signedDecimal number ++ [')']
  | .worded _ message => message
  | .ofKind kind => kind.text.toList

/-! ## The errors of this library's own file operations -/

/-- No entry has the name, or the path is empty. -/
def noEntry : IoError := .system 2

/-- A file stands where a directory is wanted. -/
def notDirectory : IoError := .system 20

/-- A directory stands where a file is wanted. -/
def isDirectory : IoError := .system 21

/-- A name or a whole path is too long. -/
def nameTooLong : IoError := .system 36

/-- Links lead to links for too long. -/
def tooManyLinks : IoError := .system 40

/-- A path holds a zero byte, which no system call can be given. -/
def zeroByte : IoError :=
  .worded .invalidInput "file name contained an unexpected NUL byte".toList

/-- What was read as text does not encode one. -/
def notUtf8 : IoError := .worded .invalidData "stream did not contain valid UTF-8".toList

end IoError

end DecoderKit
