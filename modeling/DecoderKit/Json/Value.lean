import DecoderKit.Text.Blank

/-!
# JSON values and their tokens

A JSON text is a row of tokens: brackets and braces, commas and colons, and between
them the literals. Which tokens a value is made of is a matter of the value alone, since
all freedom of layout is freedom about blanks. So the grammar of values is a function,
`JsonValue.tokens`, and reading has to undo it.

The JSON of this library is the part without fractions and without escapes: numbers
are whole, and strings hold only characters that stand for themselves.
-/

namespace DecoderKit

/-- A JSON value. -/
inductive JsonValue
  | null
  | bool (b : Bool)
  | number (n : Int)
  | string (t : Text)
  | array (items : List JsonValue)
  /-- The members in order, each key with its value. -/
  | object (members : List (Text × JsonValue))

/-- A token of a JSON text. -/
inductive JsonToken
  | openArray
  | closeArray
  | openObject
  | closeObject
  | colon
  | comma
  | null
  | bool (b : Bool)
  | number (n : Int)
  | string (t : Text)
deriving DecidableEq, Repr

namespace JsonValue

/-- The name of a truth value. -/
def boolName : Bool → Text
  | true => "true".toList
  | false => "false".toList

/-- Parts with a comma between any two. -/
def separated (parts : List (List JsonToken)) : List JsonToken :=
  [JsonToken.comma].intercalate parts

mutual

/-- The tokens of a value. -/
def tokens : JsonValue → List JsonToken
  | .null => [.null]
  | .bool b => [.bool b]
  | .number n => [.number n]
  | .string t => [.string t]
  | .array items => .openArray :: separated (itemTokens items) ++ [.closeArray]
  | .object members => .openObject :: separated (memberTokens members) ++ [.closeObject]

/-- The tokens of each item of an array. -/
def itemTokens : List JsonValue → List (List JsonToken)
  | [] => []
  | item :: items => item.tokens :: itemTokens items

/-- The tokens of each member of an object. -/
def memberTokens : List (Text × JsonValue) → List (List JsonToken)
  | [] => []
  | (key, value) :: members => (.string key :: .colon :: value.tokens) :: memberTokens members

end

theorem itemTokens_eq_map (items : List JsonValue) : itemTokens items = items.map tokens := by
  induction items with
  | nil => rfl
  | cons item items ih => rw [itemTokens, ih, List.map_cons]

/-- The tokens of a member: its key, a colon and its value. -/
def tokensOfMember (member : Text × JsonValue) : List JsonToken :=
  .string member.1 :: .colon :: member.2.tokens

theorem memberTokens_eq_map (members : List (Text × JsonValue)) :
    memberTokens members = members.map tokensOfMember := by
  induction members with
  | nil => rfl
  | cons member members ih =>
      obtain ⟨key, value⟩ := member
      rw [memberTokens, ih, List.map_cons, tokensOfMember]

/-- **What holds of a value when it holds of its parts holds of every value.** -/
theorem induct {P : JsonValue → Prop} (null : P .null) (bool : ∀ b, P (.bool b))
    (number : ∀ n, P (.number n)) (string : ∀ t, P (.string t))
    (array : ∀ items : List JsonValue, (∀ item ∈ items, P item) → P (.array items))
    (object : ∀ members : List (Text × JsonValue), (∀ member ∈ members, P member.2) →
      P (.object members)) : ∀ v, P v
  | .null => null
  | .bool b => bool b
  | .number n => number n
  | .string t => string t
  | .array items =>
    array items fun item _ => induct null bool number string array object item
  | .object members =>
    object members fun member _ => induct null bool number string array object member.2
decreasing_by
  · have hsize := List.sizeOf_lt_of_mem ‹item ∈ items›
    simp only [JsonValue.array.sizeOf_spec]
    omega
  · have hsize := List.sizeOf_lt_of_mem ‹member ∈ members›
    have hvalue : sizeOf member.2 < sizeOf member := by
      cases member
      simp only [Prod.mk.sizeOf_spec]
      omega
    simp only [JsonValue.object.sizeOf_spec]
    omega

end JsonValue

end DecoderKit
