import DecoderKit.Log.Event
import DecoderKit.Pattern.Support

/-!
# Log directives

A directive says up to which level some events are reported. It is about the events
whose origin begins with a given text; it may also ask for a field that the event
has to carry, or for a span of work around the event. This program opens no spans,
so a directive of the last kind is about none of its events.

In text, a directive is a place, a scope in square brackets, and a level behind an
equals sign: `place[span{field}]=level`. Each of the three may be missing. A word
alone is a level if it spells one, else a place; without a level, all is reported.
Blanks belong to the place, where no event can match them, and spoil a level. A field
may be compared with a number or a pattern, `{field=value}`.
-/

namespace DecoderKit.Log

/-- What a directive asks of an event besides its origin. -/
inductive Scope
  /-- Nothing. -/
  | anywhere
  /-- The event carries a field of this name. -/
  | withField (name : Text)
  /-- The event happens within a span, or within one that has recorded a value. -/
  | withinSpan
deriving DecidableEq, Repr

/-- Up to which level some events are reported. -/
structure Directive where
  /-- How the names of their origins begin. -/
  place : Text
  scope : Scope
  /-- The rank of the last level reported; zero for none. -/
  upTo : Nat
deriving DecidableEq, Repr

namespace Scope

/-- Whether an event is as asked. -/
def holds : Scope → Event → Bool
  | .anywhere, _ => true
  | .withField name, event => event.fieldNames.any fun field => field.toList == name
  | .withinSpan, _ => false

/-- The fields that are asked for. -/
def fields : Scope → List Text
  | .withField name => [name]
  | _ => []

end Scope

namespace Directive

/-- Whether a directive is about an event. -/
def concerns (directive : Directive) (event : Event) : Bool :=
  directive.place.isPrefixOf event.origin.name.toList && directive.scope.holds event

/-- Whether a directive reports the events of a level. -/
def admits (directive : Directive) (level : Level) : Bool :=
  decide (level.rank ≤ directive.upTo)

/--
Whether of two directives about the same event, in the order of the filter, the second
counts. The longer place comes first, then the greater list of fields.
-/
def yields (first second : Directive) : Bool :=
  decide (first.place.length < second.place.length)
    || decide (first.place.length = second.place.length)
      && !second.scope.fields.lex first.scope.fields fun s t => decide (s < t)

/-! ## Reading -/

/-- The names of the levels by rank; the first one turns reports off. -/
def levelNames : List String := ["off", "error", "warn", "info", "debug", "trace"]

/-- Reads the rank of a level: a numeral, or the name in any case. -/
def rank? (t : Text) : Option Nat :=
  match Numeral.read 10 Level.trace.rank t with
  | .ok rank => some rank
  | .error _ => levelNames.idxOf? (String.ofList (t.map Char.toLower))

/-- Reads the level behind an equals sign. Nothing there stands for all levels. -/
def levelBehind? : Text → Option Nat
  | ['='] => some Level.trace.rank
  | '=' :: level => rank? level
  | _ => none

/-- A word is a level if it spells one, else a place. -/
def ofWord (word : Text) : Directive :=
  match rank? word with
  | some rank => ⟨[], .anywhere, rank⟩
  | none => ⟨word, .anywhere, Level.trace.rank⟩

/-- Whether a text can be the value of a field: a number or a pattern. -/
def isValue (t : Text) : Bool := Numeral.isReal t || Pattern.isPattern t

/--
Reads the scope of a span and a field. The field may be compared with a value, which
ends at the next equals sign; values are known of spans only.
-/
def readScope? (span field : Text) : Option Scope :=
  let name := field.takeWhile (· != '=')
  match field.drop name.length with
  | [] => some (if span = [] then .withField name else .withinSpan)
  | _ :: rest => if isValue (rest.takeWhile (· != '=')) then some .withinSpan else none

/--
The text of a field. It is found with the blanks before the directive taken away and cut
out with the blanks in place, so it begins and ends by their size too early.
-/
def fieldText? (blanks before field : Text) : Option Text :=
  let bytes := Utf8.encode (before ++ field)
  let start := (Utf8.encode before).length - (Utf8.encode blanks).length
  Utf8.decode? ((bytes.drop start).take (Utf8.encode field).length)

/-- Reads a scope behind its opening bracket, and gives back what follows it. -/
def readBracket? (blanks before t : Text) : Option (Scope × Text) :=
  let span := t.takeWhile fun c => c != ']' && c != '{'
  match t.drop span.length with
  | ']' :: rest => some (.withinSpan, rest)
  | '{' :: inner =>
    let field := inner.takeWhile (· != '}')
    match inner.drop field.length with
    | '}' :: ']' :: rest =>
      if field = [] then none
      else
        ((fieldText? blanks (before ++ '[' :: span ++ ['{']) field).bind (readScope? span)).map
          (·, rest)
    | _ => none
  | _ => none

/-- Whether a directive can begin with a character. -/
def canBegin (c : Char) : Bool :=
  Text.isAlphanumeric c || c == '-' || c == ':' || c == '_' || c == '['

/-- Reads a directive. -/
def read? (t : Text) : Option Directive :=
  let blanks := t.takeWhile Text.isBlank
  let place := t.takeWhile fun c => c != '=' && c != '['
  let level? (rest : Text) := if blanks = [] then levelBehind? rest else none
  if !(t.drop blanks.length).head?.any canBegin then none
  else
    match t.drop place.length with
    | [] => some (ofWord t)
    | '[' :: inner =>
      match readBracket? blanks place inner with
      | none => none
      | some (scope, rest) =>
        if rest.isBlankLine then some ⟨place, scope, Level.trace.rank⟩
        else (level? rest).map (⟨place, scope, ·⟩)
    | rest => (level? rest).map (⟨place, .anywhere, ·⟩)

end Directive

end DecoderKit.Log
