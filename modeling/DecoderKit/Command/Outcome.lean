import DecoderKit.Fault
import DecoderKit.Files.Disk
import DecoderKit.Log.Library

/-!
# What a run sees and what it leaves

A run of a tool is a function: from its arguments and its host to an outcome. The host is
all that a run can look at besides its arguments.

The words of the command line are given to a parser first, which may look at the
environment for what the words leave out. It hands the program its arguments, or it ends
the run: when help is asked for, which is printed then, or when the words are misused.
The program reports events on its way and comes to its output or to a diagnosis. The
output is printed at the end, all of it or nothing.
-/

namespace DecoderKit.Command

/-- The environment variables that the tools look at. -/
structure Environment where
  /-- The corpus directory. -/
  corpus : Option Bytes := none
  /-- The log setting. -/
  log : Option Bytes := none
deriving DecidableEq, Repr

/-- What a run can look at. -/
structure Host where
  /-- The files, none of which is another name for the standard input. -/
  disk : Disk
  /-- What can be read of the standard input. -/
  input : Except IoError Bytes
  environment : Environment

/-- What a parser makes of the words of a command line. -/
inductive Parsed (α : Type)
  | given (arguments : α)
  /-- Help is asked for. -/
  | help (text : Text)
  /-- The words are refused, for reasons that are told. -/
  | misused (text : Text)
deriving DecidableEq, Repr

/-- A parser of command lines. -/
abbrev Parser (α : Type) := Environment → List Bytes → Parsed α

/-- What a run leaves. -/
structure Outcome where
  exitCode : Nat
  /-- The standard output. -/
  output : Text
  /-- The standard error. -/
  errorOutput : Text
deriving DecidableEq, Repr

/-- The outcome of a program that has come to a result, with the record of its events. -/
def Outcome.ended (record : Log.Record) : Except Diagnosis Text → Outcome
  | .ok output => { exitCode := 0, output, errorOutput := record.flatten }
  | .error diagnosis =>
    { exitCode := 1, output := [], errorOutput := record.flatten ++ diagnosis.message ++ ['\n'] }

/-- Runs a program on the arguments that a parser finds in the words. -/
def Host.run {α : Type} (host : Host) (library : Log.Library) (parser : Parser α)
    (program : α → Log.Reporting (Except Diagnosis Text)) (words : List Bytes) : Outcome :=
  match parser host.environment words with
  | .help text => { exitCode := 0, output := text, errorOutput := [] }
  | .misused text => { exitCode := 2, output := [], errorOutput := text }
  | .given arguments =>
    let (result, record) := program arguments (library.subscriber host.environment.log) []
    .ended record result

end DecoderKit.Command
