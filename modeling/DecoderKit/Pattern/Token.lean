import DecoderKit.Pattern.Expr
import DecoderKit.Text.Alphanumeric

/-!
# Tokens of patterns

A pattern is first cut into tokens: the smallest patterns, the signs that open, close
and part groups, and the repetition signs. Where blanks count nothing depends on the
groups around them, so the reader keeps track of these.

A group may have a name, of letters, numbers, `_`, `.`, `[` and `]`, the first of them
a letter or `_`. In place of a name, a group may have flags, each at most once; those
behind a hyphen are turned off. Flags without a group are a setting.

A count in braces is no repetition sign here: what holds a pattern ends at the closing
brace, so a count that is opened cannot be closed.
-/

namespace DecoderKit.Pattern

/-- A token of a pattern. -/
inductive Token
  /-- A pattern by itself. -/
  | atom (expr : Expr)
  /-- What stands before may be repeated. -/
  | repetition
  | bar
  /-- A group begins. -/
  | opening (name : Option Text) (change : Change)
  | closing

namespace Token

/-- The name that a token gives to a group. -/
def name? : Token → Option Text
  | .opening name _ => name
  | _ => none

/-! ## Groups -/

/-- Whether a text can name a group. -/
def isGroupName : Text → Bool
  | [] => false
  | c :: rest =>
    (c == '_' || Text.isAlphabetic c)
      && rest.all fun c => "_.[]".toList.contains c || Text.isAlphanumeric c

/-- Whether flags are known, none is there twice, and a hyphen is not the last of them. -/
def areFlags (flags : Text) : Bool :=
  flags.all ("imsRUux-".toList.contains ·) && decide flags.Nodup && flags.getLast? != some '-'

/-- What flags do to one of the things that they govern. -/
def effect? (flags : Text) (flag : Char) : Option Bool :=
  if flag ∉ flags then none else some ((flags.takeWhile (· != '-')).contains flag)

/-- What flags do. -/
def changeOf (flags : Text) : Change :=
  ⟨effect? flags 'i', effect? flags 'u', effect? flags 'x'⟩

/-- Reads the name of a group, and the sign behind it. -/
def readGroupName? (t : Text) : Option (Token × Text) :=
  let name := t.takeWhile (· != '>')
  match t.drop name.length with
  | '>' :: rest => if isGroupName name then some (.opening (some name) {}, rest) else none
  | _ => none

/-- Reads flags, and the sign behind them that tells a group from a setting. -/
def readFlags? (t : Text) : Option (Token × Text) :=
  let flags := t.takeWhile fun c => c != ':' && c != ')'
  if !areFlags flags then none
  else
    match t.drop flags.length with
    | ':' :: rest => some (.opening none (changeOf flags), rest)
    | ')' :: rest => if flags = [] then none else some (.atom (.setting (changeOf flags)), rest)
    | _ => none

/-- Reads what follows an opening parenthesis. -/
def readOpening? (spaced : Bool) (t : Text) : Option (Token × Text) :=
  match skip spaced t with
  | '?' :: 'P' :: '<' :: rest => readGroupName? rest
  | '?' :: '<' :: rest => readGroupName? rest
  | '?' :: rest => readFlags? rest
  | rest => some (.opening none {}, rest)

/-! ## All tokens -/

/-- A repetition sign and the question mark that may follow it. -/
def withoutLazySign : Text → Text
  | '?' :: rest => rest
  | rest => rest

/-- Reads a token, and gives back what follows it. -/
def read? (spaced : Bool) : Text → Option (Token × Text)
  | [] => none
  | '(' :: rest => readOpening? spaced rest
  | ')' :: rest => some (.closing, rest)
  | '|' :: rest => some (.bar, rest)
  | '?' :: rest => some (.repetition, withoutLazySign rest)
  | '*' :: rest => some (.repetition, withoutLazySign rest)
  | '+' :: rest => some (.repetition, withoutLazySign rest)
  | '{' :: _ => none
  | '[' :: rest => (readSet? spaced rest).map fun (set, rest) => (.atom (.set set), rest)
  | '\\' :: rest =>
    (readEscape? spaced rest).map fun (escape, rest) => (.atom (.ofEscape escape), rest)
  | '.' :: rest => some (.atom .anyChar, rest)
  | '^' :: rest => some (.atom (.boundary false), rest)
  | '$' :: rest => some (.atom (.boundary false), rest)
  | c :: rest => some (.atom (.char c false), rest)

/-- Whether a pattern is spaced here, and in the groups around, the nearest one first. -/
structure Spacing where
  here : Bool
  around : List Bool

/-- The spacing behind a token. -/
def Spacing.behind (spacing : Spacing) : Token → Spacing
  | .opening _ change => ⟨change.spaced.getD spacing.here, spacing.here :: spacing.around⟩
  | .closing => ⟨spacing.around.headD spacing.here, spacing.around.tail⟩
  | .atom (.setting change) => ⟨change.spaced.getD spacing.here, spacing.around⟩
  | _ => spacing

/-- Reads tokens to the end of the text. -/
def readFrom? : Nat → Spacing → Text → Option (List Token)
  | 0, _, _ => none
  | fuel + 1, spacing, t =>
    match skip spacing.here t with
    | [] => some []
    | t =>
      match read? spacing.here t with
      | none => none
      | some (token, rest) => (readFrom? fuel (spacing.behind token) rest).map (token :: ·)

/-- The tokens of a pattern. Each takes a character, so their number is bounded by its length. -/
def ofText? (t : Text) : Option (List Token) := readFrom? (t.length + 1) ⟨false, []⟩ t

end Token

end DecoderKit.Pattern
