import DecoderKit.Pattern.Reader

/-!
# Patterns that can be matched

A matcher works on text and has no tables of Unicode. In Unicode it knows no classes by
escape and no ends of words, and nothing without regard to case. In ASCII it knows all
of these, but it must not match a part of a character: so nothing there may stand for
all characters but some, or for a byte of its own beyond ASCII.
-/

namespace DecoderKit.Pattern

/-- How a part of a pattern is understood. -/
structure Mode where
  caseless : Bool := false
  unicode : Bool := true
deriving DecidableEq, Repr

/-- A mode after a change. -/
def Mode.after (mode : Mode) (change : Change) : Mode :=
  ⟨change.caseless.getD mode.caseless, change.unicode.getD mode.unicode⟩

/-- Whether a character in a set can be matched. -/
def Mode.takesMember (mode : Mode) (c : Char) : Bool :=
  if mode.unicode then !mode.caseless else decide (c.toNat < 128)

mutual

/-- Whether a set can be matched. -/
def CharSet.isSupported (mode : Mode) : CharSet → Bool
  | .empty => true
  | .one c => mode.takesMember c
  | .range first last => mode.takesMember first && mode.takesMember last
  | .named negated => if mode.unicode then !mode.caseless else !negated
  | .wordClass negated => !mode.unicode && !negated
  | .bracketed negated inner => (mode.unicode || !negated) && inner.isSupported mode
  | .union parts => CharSet.areSupported mode parts
  | .combined first second => first.isSupported mode && second.isSupported mode

/-- Whether sets can all be matched. -/
def CharSet.areSupported (mode : Mode) : List CharSet → Bool
  | [] => true
  | set :: sets => set.isSupported mode && CharSet.areSupported mode sets

end

namespace Expr

/-- Whether a character by itself can be matched. -/
def takesChar (mode : Mode) (c : Char) (asByte : Bool) : Bool :=
  if mode.unicode then !mode.caseless
  else decide (c.toNat < 128) || !mode.caseless && !asByte

mutual

/-- The mode behind a pattern, if it can be matched. -/
def behind? (mode : Mode) : Expr → Option Mode
  | .empty => some mode
  | .setting change => some (mode.after change)
  | .char c asByte => if takesChar mode c asByte then some mode else none
  | .anyChar => if mode.unicode then some mode else none
  | .boundary ofWord => if mode.unicode && ofWord then none else some mode
  | .wordClass negated => if mode.unicode || negated then none else some mode
  | .set chars => if chars.isSupported mode then some mode else none
  | .repeated inner => inner.behind? mode
  | .group change inner => (inner.behind? (mode.after change)).map fun _ => mode
  | .sequence parts => behindAll? mode parts
  | .choice branches => behindAll? mode branches

/-- The mode behind patterns in their order, if all of them can be matched. -/
def behindAll? (mode : Mode) : List Expr → Option Mode
  | [] => some mode
  | expr :: exprs =>
    match expr.behind? mode with
    | none => none
    | some mode => behindAll? mode exprs

end

end Expr

/-- Whether a text is a pattern that can be matched. -/
def isPattern (t : Text) : Bool :=
  match read? t with
  | none => false
  | some expr => (expr.behind? {}).isSome

end DecoderKit.Pattern
