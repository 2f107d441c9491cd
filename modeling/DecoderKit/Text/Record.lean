import DecoderKit.Text.Blank

/-!
# Comma separated records

A record is written as its fields with commas between them and a line feed at the
end. A field is written as it is, unless it holds a character that would be read
as part of the layout: then it stands in double quotes, with each of its own
double quotes written twice. A record whose only field is empty is written as a
pair of quotes, since an empty line would be no record at all.
-/

namespace DecoderKit.Record

/-- Characters that a bare field may not hold. -/
def isLayout (c : Char) : Bool := c = ',' || c = '"' || c = '\r' || c = '\n'

/-- A field in double quotes. -/
def quoteField (field : Text) : Text :=
  '"' :: field.flatMap (fun c => if c = '"' then ['"', '"'] else [c]) ++ ['"']

/-- A field as it is written in a record. -/
def writeField (field : Text) : Text :=
  if field.any isLayout then quoteField field else field

/-- A record as one line, with its line feed. -/
def write (fields : List Text) : Text :=
  (if fields = [[]] then quoteField [] else [','].intercalate (fields.map writeField)) ++ ['\n']

/-- A field without layout characters is written as it is. -/
theorem writeField_eq_self {field : Text} (h : ∀ c ∈ field, isLayout c = false) :
    writeField field = field := by
  rw [writeField, if_neg]
  simpa using h

end DecoderKit.Record
