import DecoderKit.Json.Lexeme

/-!
# Reading JSON

The reader is a machine that takes one token after the other. It keeps the arrays and
the objects that are still open on a stack, each with what has been read of it, and it
knows what may come next.
-/

namespace DecoderKit.JsonText

/-- An open array or object that waits for a value. -/
inductive Frame
  /-- An array with these items. -/
  | array (items : List JsonValue)
  /-- An object with these members, and the key of the value. -/
  | object (members : List (Text × JsonValue)) (key : Text)

/-- What may come next. -/
inductive Phase
  /-- A value. -/
  | value
  /-- A key of an object with these members. -/
  | key (members : List (Text × JsonValue))
  /-- The colon behind a key. -/
  | colon (members : List (Text × JsonValue)) (key : Text)
  /-- What may stand behind this value. -/
  | behind (v : JsonValue)

/-- The machine between two tokens. The innermost open value comes first. -/
structure State where
  phase : Phase
  frames : List Frame

/-- The machine before the first token. -/
def State.start : State := ⟨.value, []⟩

/-- Takes a token. An array may be closed where its first item may stand, not behind a comma. -/
def step : State → JsonToken → Option State
  | ⟨.value, frames⟩, .null => some ⟨.behind .null, frames⟩
  | ⟨.value, frames⟩, .bool b => some ⟨.behind (.bool b), frames⟩
  | ⟨.value, frames⟩, .number n => some ⟨.behind (.number n), frames⟩
  | ⟨.value, frames⟩, .string t => some ⟨.behind (.string t), frames⟩
  | ⟨.value, frames⟩, .openArray => some ⟨.value, .array [] :: frames⟩
  | ⟨.value, frames⟩, .openObject => some ⟨.key [], frames⟩
  | ⟨.value, .array [] :: frames⟩, .closeArray => some ⟨.behind (.array []), frames⟩
  | ⟨.key [], frames⟩, .closeObject => some ⟨.behind (.object []), frames⟩
  | ⟨.key members, frames⟩, .string key => some ⟨.colon members key, frames⟩
  | ⟨.colon members key, frames⟩, .colon => some ⟨.value, .object members key :: frames⟩
  | ⟨.behind v, .array items :: frames⟩, .comma =>
    some ⟨.value, .array (items ++ [v]) :: frames⟩
  | ⟨.behind v, .array items :: frames⟩, .closeArray =>
    some ⟨.behind (.array (items ++ [v])), frames⟩
  | ⟨.behind v, .object members key :: frames⟩, .comma =>
    some ⟨.key (members ++ [(key, v)]), frames⟩
  | ⟨.behind v, .object members key :: frames⟩, .closeObject =>
    some ⟨.behind (.object (members ++ [(key, v)])), frames⟩
  | _, _ => none

/-- The value that has been read, if nothing is open. -/
def State.value? : State → Option JsonValue
  | ⟨.behind v, []⟩ => some v
  | _ => none

/-- The value that tokens are of. -/
def parse? (tokens : List JsonToken) : Option JsonValue :=
  (tokens.foldlM step State.start).bind State.value?

/-- Reads a JSON text. -/
def read? (t : Text) : Option JsonValue := (tokens? t).bind parse?

end DecoderKit.JsonText
