/-!
# Text and its blank characters

Text is a list of characters, so every reader of this library is a recursion on
the data. What separates words, and what is trimmed from the ends of an input, is
a character with the Unicode property White_Space; the table below is that
property in full, and `isBlank` is membership in it.
-/

namespace DecoderKit

/-- Text as its characters. -/
abbrev Text := List Char

/-- Whether the code point of a character lies in one of the ranges, ends included. -/
def inRanges (ranges : List (Nat × Nat)) (c : Char) : Bool :=
  ranges.any fun r => decide (r.1 ≤ c.toNat) && decide (c.toNat ≤ r.2)

theorem inRanges_iff {ranges : List (Nat × Nat)} {c : Char} :
    inRanges ranges c = true ↔ ∃ r ∈ ranges, r.1 ≤ c.toNat ∧ c.toNat ≤ r.2 := by
  simp [inRanges]

namespace Text

/-- The code points with the property White_Space. -/
def blankRanges : List (Nat × Nat) :=
  [(0x09, 0x0d), (0x20, 0x20), (0x85, 0x85), (0xa0, 0xa0), (0x1680, 0x1680),
   (0x2000, 0x200a), (0x2028, 0x2029), (0x202f, 0x202f), (0x205f, 0x205f), (0x3000, 0x3000)]

/-- Whether a character is white space. -/
def isBlank (c : Char) : Bool := inRanges blankRanges c

/-- Text without the blanks at its start. -/
def trimStart (t : Text) : Text := t.dropWhile isBlank

/-- Text without the blanks at its end. -/
def trimEnd (t : Text) : Text := (t.reverse.dropWhile isBlank).reverse

/-- Text without the blanks at either end. -/
def trim (t : Text) : Text := trimEnd (trimStart t)

/-- A blank line holds white space only, or nothing. -/
def isBlankLine (t : Text) : Bool := t.all isBlank

end Text

end DecoderKit
