import DecoderKit.Pattern.Escape

/-!
# Sets of characters in patterns

A set stands in square brackets. It joins its parts: characters, ranges of them, named
classes such as `[:alpha:]`, classes by escape and further sets. Doubled signs between
parts, `&&`, `--` and `~~`, combine all that stands before them with what follows.

Brackets nest, so a set is read with a stack of the brackets that are still open. At
its start a bracket takes hyphens as themselves, and a closing bracket too if it is the
very first character.
-/

namespace DecoderKit.Pattern

/-- A set of characters as it is written. -/
inductive CharSet
  | empty
  | one (c : Char)
  | range (first last : Char)
  /-- A class by its name. -/
  | named (negated : Bool)
  /-- A class by an escape. -/
  | wordClass (negated : Bool)
  | bracketed (negated : Bool) (inner : CharSet)
  | union (parts : List CharSet)
  | combined (first second : CharSet)

mutual

/-- How deep a set is nested. -/
def CharSet.height : CharSet → Nat
  | .bracketed _ inner => inner.height + 1
  | .union parts => CharSet.heights parts + 1
  | .combined first second => max first.height second.height + 1
  | _ => 0

/-- How deep the deepest of some sets is nested. -/
def CharSet.heights : List CharSet → Nat
  | [] => 0
  | set :: sets => max set.height (CharSet.heights sets)

end

/-! ## Parts -/

/-- The names of the classes. -/
def classNames : List String :=
  ["alnum", "alpha", "ascii", "blank", "cntrl", "digit", "graph", "lower", "print", "punct",
   "space", "upper", "word", "xdigit"]

/-- Reads a named class behind its opening bracket, and whether it is negated. -/
def readNamed? : Text → Option (Bool × Text)
  | ':' :: t =>
    let negated := t.head? == some '^'
    let t := if negated then t.tail else t
    let name := t.takeWhile (· != ':')
    match t.drop name.length with
    | ':' :: ']' :: rest =>
      if String.ofList name ∈ classNames then some (negated, rest) else none
    | _ => none
  | _ => none

/-- The set that an escape stands for. A place is none. -/
def Escape.set? : Escape → Option CharSet
  | .char c _ => some (.one c)
  | .boundary _ => none
  | .wordClass negated => some (.wordClass negated)

/-- Reads a character or an escape. -/
def readMember? (spaced : Bool) : Text → Option (Escape × Text)
  | [] => none
  | '\\' :: rest => readEscape? spaced rest
  | c :: rest => some (.char c false, rest)

/-- Reads a range behind its first character and its hyphen. -/
def readRange? (spaced : Bool) (first : Escape) (t : Text) : Option (CharSet × Text) :=
  match first, readMember? spaced (skip spaced t) with
  | .char first _, some (.char last _, rest) =>
    if first ≤ last then some (.range first last, rest) else none
  | _, _ => none

/-- Reads a member and, if a hyphen and another member follow, the range up to it. -/
def readPart? (spaced : Bool) (t : Text) : Option (CharSet × Text) :=
  match readMember? spaced t with
  | none => none
  | some (first, rest) =>
    match skip spaced rest with
    | '-' :: next =>
      if peek? spaced next = some ']' ∨ peek? spaced next = some '-' then
        first.set?.map (·, '-' :: next)
      else readRange? spaced first next
    | rest => first.set?.map (·, rest)

/-! ## Brackets -/

/-- A bracket that is still open. -/
structure Bracket where
  negated : Bool
  /-- What stands before the last operator. -/
  left : Option CharSet
  /-- The parts behind it, the last one first. -/
  parts : List CharSet
  /-- Whether there have been hyphens at most. -/
  fresh : Bool

namespace Bracket

/-- The set that a bracket holds so far. -/
def content (bracket : Bracket) : CharSet :=
  let right :=
    match bracket.parts with
    | [] => .empty
    | [part] => part
    | parts => .union parts.reverse
  match bracket.left with
  | none => right
  | some left => .combined left right

/-- The set of a bracket that is closed. -/
def set (bracket : Bracket) : CharSet := .bracketed bracket.negated bracket.content

/-- A bracket with another part. -/
def add (bracket : Bracket) (part : CharSet) : Bracket :=
  { bracket with parts := part :: bracket.parts, fresh := false }

/-- A bracket with a hyphen at its start. -/
def addHyphen (bracket : Bracket) : Bracket :=
  { bracket with parts := .one '-' :: bracket.parts }

/-- A bracket with an operator behind all that it holds. -/
def operate (bracket : Bracket) : Bracket :=
  { bracket with left := some bracket.content, parts := [], fresh := false }

/-- Opens a bracket behind its sign. -/
def opened (spaced : Bool) (t : Text) : Bracket × Text :=
  match skip spaced t with
  | '^' :: rest => (⟨true, none, [], true⟩, rest)
  | rest => (⟨false, none, [], true⟩, rest)

/-- Reads to the end of the outermost bracket, with the brackets around this one at hand. -/
def readWithin (spaced : Bool) : Nat → Bracket → List Bracket → Text → Option (CharSet × Text)
  | 0, _, _, _ => none
  | fuel + 1, bracket, outer, t =>
    match skip spaced t with
    | [] => none
    | c :: rest =>
      if bracket.fresh && c == '-' then readWithin spaced fuel bracket.addHyphen outer rest
      else if bracket.fresh && c == ']' && bracket.parts.isEmpty then
        readWithin spaced fuel (bracket.add (.one ']')) outer rest
      else
        match c, rest with
        | '[', rest =>
          match readNamed? rest with
          | some (negated, rest) => readWithin spaced fuel (bracket.add (.named negated)) outer rest
          | none =>
            let (inner, rest) := opened spaced rest
            readWithin spaced fuel inner (bracket :: outer) rest
        | ']', rest =>
          match outer with
          | [] => some (bracket.set, rest)
          | around :: outer => readWithin spaced fuel (around.add bracket.set) outer rest
        | '&', '&' :: rest => readWithin spaced fuel bracket.operate outer rest
        | '-', '-' :: rest => readWithin spaced fuel bracket.operate outer rest
        | '~', '~' :: rest => readWithin spaced fuel bracket.operate outer rest
        | _, _ =>
          match readPart? spaced (c :: rest) with
          | none => none
          | some (part, rest) => readWithin spaced fuel (bracket.add part) outer rest

end Bracket

/-- Reads a set behind its opening bracket. Each step takes a character, so its length is enough. -/
def readSet? (spaced : Bool) (t : Text) : Option (CharSet × Text) :=
  let (bracket, rest) := Bracket.opened spaced t
  Bracket.readWithin spaced rest.length bracket [] rest

end DecoderKit.Pattern
