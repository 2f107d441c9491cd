import DecoderKit.Text.Numeral

/-!
# The predefined table of offset codes

The decoding table that is in force when a frame brings none of its own (accuracy
log 5), as the text of the reference.
-/

namespace DecoderKit.Table

/-- State, symbol, number of bits and baseline of each entry. -/
def offsetCodes : List (Nat × Nat × Nat × Nat) :=
  [(0, 0, 5, 0), (1, 6, 4, 0), (2, 9, 5, 0), (3, 15, 5, 0),
   (4, 21, 5, 0), (5, 3, 5, 0), (6, 7, 4, 0), (7, 12, 5, 0),
   (8, 18, 5, 0), (9, 23, 5, 0), (10, 5, 5, 0), (11, 8, 4, 0),
   (12, 14, 5, 0), (13, 20, 5, 0), (14, 2, 5, 0), (15, 7, 4, 16),
   (16, 11, 5, 0), (17, 17, 5, 0), (18, 22, 5, 0), (19, 4, 5, 0),
   (20, 8, 4, 16), (21, 13, 5, 0), (22, 19, 5, 0), (23, 1, 5, 0),
   (24, 6, 4, 16), (25, 10, 5, 0), (26, 16, 5, 0), (27, 28, 5, 0),
   (28, 27, 5, 0), (29, 26, 5, 0), (30, 25, 5, 0), (31, 24, 5, 0)]

/-- The table as text: a space and a tab between columns, each row on a line. -/
def offsetCodeText : Text :=
  offsetCodes.flatMap fun (state, symbol, bits, baseline) =>
    [' ', '\t'].intercalate ([state, symbol, bits, baseline].map Numeral.decimal) ++ ['\n']

end DecoderKit.Table
