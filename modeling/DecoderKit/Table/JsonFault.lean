import DecoderKit.Text.Numeral

/-!
# Faults of JSON

A fault of JSON may have a position, which is told behind its message, as in
`message at line 3 column 7`; line zero says that there is no position.
-/

namespace DecoderKit

/-- What is wrong with some JSON, and where. -/
structure JsonFault where
  message : Text
  line : Nat := 0
  column : Nat := 0
deriving DecidableEq, Repr

namespace JsonFault

/-- A fault in words, with its position if it has one. -/
def text (fault : JsonFault) : Text :=
  if fault.line = 0 then fault.message
  else
    fault.message ++ " at line ".toList ++ Numeral.decimal fault.line ++ " column ".toList
      ++ Numeral.decimal fault.column

end JsonFault

end DecoderKit
