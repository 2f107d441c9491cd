import DecoderKit.Pattern.CharSet

/-!
# Patterns

A pattern as a tree. Groups may change how what they hold is read, and a setting does
so from where it stands to the end of its group: whether case counts, whether
characters are those of Unicode or of ASCII, and whether the pattern is spaced.
-/

namespace DecoderKit.Pattern

/-- A change of how a pattern is read; where it says nothing, things stay as they are. -/
structure Change where
  caseless : Option Bool := none
  unicode : Option Bool := none
  spaced : Option Bool := none
deriving DecidableEq, Repr

/-- A pattern. -/
inductive Expr
  | empty
  | setting (change : Change)
  | char (c : Char) (asByte : Bool)
  | anyChar
  /-- A place between characters, which may be the end of a word. -/
  | boundary (ofWord : Bool)
  | wordClass (negated : Bool)
  | set (chars : CharSet)
  | repeated (inner : Expr)
  | group (change : Change) (inner : Expr)
  | sequence (parts : List Expr)
  | choice (branches : List Expr)

namespace Expr

/-- The pattern that an escape stands for. -/
def ofEscape : Escape → Expr
  | .char c asByte => .char c asByte
  | .boundary ofWord => .boundary ofWord
  | .wordClass negated => .wordClass negated

/-- Patterns one behind the other. -/
def ofParts : List Expr → Expr
  | [] => .empty
  | [part] => part
  | parts => .sequence parts

mutual

/-- How deep a pattern is nested. -/
def height : Expr → Nat
  | .set chars => chars.height
  | .repeated inner => inner.height + 1
  | .group _ inner => inner.height + 1
  | .sequence parts => heights parts + 1
  | .choice branches => heights branches + 1
  | _ => 0

/-- How deep the deepest of some patterns is nested. -/
def heights : List Expr → Nat
  | [] => 0
  | expr :: exprs => max expr.height (heights exprs)

end

end Expr

end DecoderKit.Pattern
