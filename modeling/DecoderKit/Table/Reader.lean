import DecoderKit.Fault

/-!
# Reading a decoding table

A table is a block of rows. Blank lines before the block and after it do not
count; inside it every line has to be a row. The first line that is none is
reported with its number in the whole text.
-/

namespace DecoderKit.Table

/-- The lines of a text with their numbers, without the blank ones at either end. -/
def block (t : Text) : List (Text × Nat) :=
  let isBlank := fun (line : Text × Nat) => Text.isBlankLine line.1
  ((((Text.lines t).zipIdx 1).dropWhile isBlank).reverse.dropWhile isBlank).reverse

/-- Reads a numbered line as a row. -/
def readRow (number : Nat) (line : Text) : Except Fault Row :=
  match Row.ofLine line with
  | .ok row => .ok row
  | .error reason => .error (.malformedRow number reason)

/-- Reads numbered lines as rows, up to the first that is none. -/
def readRows : List (Text × Nat) → Except Fault (List Row)
  | [] => .ok []
  | (line, number) :: rest =>
    match readRow number line with
    | .error fault => .error fault
    | .ok row => (readRows rest).map (row :: ·)

/-- Reads a table. -/
def read (t : Text) : Except Fault (List Row) := readRows (block t)

end DecoderKit.Table
