import DecoderKit.Json.Value
import DecoderKit.Text.Numeral

/-!
# JSON on lines

Each item of an array and each member of an object starts a line, two blanks further in
than the brackets around it. Commas stand at the ends of lines, and the closing bracket
on a line of its own. Brackets with nothing between them stay together.
-/

namespace DecoderKit.JsonValue

/-- A line feed, and the blanks in front of a line at a depth. -/
def newLine (depth : Nat) : Text := '\n' :: List.replicate (2 * depth) ' '

/-- What stands between the brackets of a value at a depth, given its parts. -/
def block (depth : Nat) : List Text → Text
  | [] => []
  | parts =>
    newLine (depth + 1) ++ (',' :: newLine (depth + 1)).intercalate parts ++ newLine depth

/-- A string in quotes. -/
def quoted (t : Text) : Text := '"' :: t ++ ['"']

mutual

/-- A value as it is laid out at a depth. Its first line has the blanks in front already. -/
def layOut (depth : Nat) : JsonValue → Text
  | .null => "null".toList
  | .bool b => boolName b
  | .number n => Numeral.signedDecimal n
  | .string t => quoted t
  | .array items => '[' :: block depth (itemTexts (depth + 1) items) ++ [']']
  | .object members => '\x7b' :: block depth (memberTexts (depth + 1) members) ++ ['\x7d']

/-- The items of an array. -/
def itemTexts (depth : Nat) : List JsonValue → List Text
  | [] => []
  | item :: items => item.layOut depth :: itemTexts depth items

/-- The members of an object, each as its key and its value. -/
def memberTexts (depth : Nat) : List (Text × JsonValue) → List Text
  | [] => []
  | (key, value) :: members =>
    (quoted key ++ ": ".toList ++ value.layOut depth) :: memberTexts depth members

end

end DecoderKit.JsonValue
