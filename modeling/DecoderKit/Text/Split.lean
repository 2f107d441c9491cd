import DecoderKit.Text.Blank

/-!
# Cutting text into parts

Where empty parts count, `List.splitOn` cuts at every separator, and joining the
parts gives the list back. The cuts here lose something on purpose. `words` are the
non-empty parts between blanks. `lines` are the physical lines of a text: each ends
at a line feed, a carriage return right before that line feed belongs to the
ending, and what follows the last line feed is a line only if there is something
there. A carriage return that ends the whole text ends no line, so it stays.
-/

namespace DecoderKit

/-- The non-empty parts of a list between separators. -/
def piecesBetween {α : Type} (isSeparator : α → Bool) (l : List α) : List (List α) :=
  (l.splitOnP isSeparator).filter fun part => !part.isEmpty

namespace Text

/-- The words of a text: its maximal runs of characters that are not blank. -/
def words (t : Text) : List Text := piecesBetween isBlank t

/-- The physical lines of a text, without their endings. -/
def lines : Text → List Text
  | [] => []
  | '\r' :: '\n' :: rest => [] :: lines rest
  | '\n' :: rest => [] :: lines rest
  | c :: rest =>
    match lines rest with
    | [] => [[c]]
    | line :: more => (c :: line) :: more

end Text

end DecoderKit
