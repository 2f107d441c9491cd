import DecoderKit.Fault

/-!
# Lists of bytes

A byte list is what a debugger prints: numbers between commas or blanks, with
brackets around them or not. A number is hexadecimal behind `0x`, decimal
otherwise, and at most 255. The first item that is no such number is reported with
its position among the items.
-/

namespace DecoderKit.Dump

/-- Whether a character separates items. -/
def isSeparator (c : Char) : Bool := c = ',' || Text.isBlank c

/-- Text without one given character at its start. -/
def dropOpening (bracket : Char) : Text → Text
  | [] => []
  | c :: rest => if c = bracket then rest else c :: rest

/-- Text without one given character at its end. -/
def dropClosing (bracket : Char) (t : Text) : Text := (dropOpening bracket t.reverse).reverse

/-- The items of a byte list. At most one bracket is dropped on each side. -/
def items (t : Text) : List Text :=
  piecesBetween isSeparator (dropClosing ']' (dropOpening '[' (Text.trim t)))

/-- The number that an item spells. -/
def itemNumber : Text → Except Numeral.Fault Nat
  | '0' :: 'x' :: digits => Numeral.read 16 255 digits
  | '0' :: 'X' :: digits => Numeral.read 16 255 digits
  | digits => Numeral.read 10 255 digits

/-- Reads one item. -/
def readItem? (item : Text) : Option UInt8 :=
  match itemNumber item with
  | .ok n => some (UInt8.ofNat n)
  | .error _ => none

/-- Reads numbered items, up to the first that is no byte. -/
def readItems : List (Text × Nat) → Except Fault Bytes
  | [] => .ok []
  | (item, index) :: rest =>
    match readItem? item with
    | none => .error (.malformedByte index item)
    | some b => (readItems rest).map (b :: ·)

/-- Reads a byte list. -/
def readList (t : Text) : Except Fault Bytes := readItems (items t).zipIdx

end DecoderKit.Dump
