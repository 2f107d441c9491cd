import DecoderKit.Command.Outcome

/-!
# Where a tool takes its input from

A path that is a hyphen, by its components, stands for the standard input. Every
other path leads to a file. In both cases the bytes have to be there, and they have to
be text.
-/

namespace DecoderKit.Command

/-- Reads the text that a path stands for. -/
def Host.read (host : Host) (path : Path) : Except Diagnosis Text :=
  if path.isStandardInput then
    (textOf host.input).mapError (Diagnosis.ofIo "reading".toList path)
  else
    (host.disk.readText path).mapError (Diagnosis.ofIo "reading input file".toList path)

end DecoderKit.Command
