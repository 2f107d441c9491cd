import DecoderKit.Pattern.Token

/-!
# Reading patterns

Tokens become a tree, with a stack of the groups that are still open. A repetition
sign needs something before it, and a setting is nothing that could be repeated; each
group is closed once; no two groups share a name; and there is a limit to how deep a
pattern is nested.
-/

namespace DecoderKit.Pattern

/-- A group that is still open, or the pattern as a whole. -/
structure Group where
  change : Change
  /-- The branches that are complete, the last one first. -/
  branches : List Expr
  /-- The parts of the branch that is not, the last one first. -/
  parts : List Expr

namespace Group

/-- The pattern in a group. -/
def content (group : Group) : Expr :=
  let last := Expr.ofParts group.parts.reverse
  if group.branches.isEmpty then last else .choice (last :: group.branches).reverse

/-- A group with another part. -/
def add (group : Group) (part : Expr) : Group := { group with parts := part :: group.parts }

/-- A group with a branch complete. -/
def branch (group : Group) : Group :=
  { group with branches := Expr.ofParts group.parts.reverse :: group.branches, parts := [] }

/-- A group with its last part repeated, if that can be. -/
def repeatLast? (group : Group) : Option Group :=
  match group.parts with
  | [] => none
  | .setting _ :: _ => none
  | part :: parts => some { group with parts := .repeated part :: parts }

end Group

/-- Puts tokens together, in a group and the groups around it. -/
def assemble? (group : Group) (outer : List Group) : List Token → Option Expr
  | [] => if outer.isEmpty then some group.content else none
  | .atom expr :: tokens => assemble? (group.add expr) outer tokens
  | .repetition :: tokens =>
    match group.repeatLast? with
    | none => none
    | some group => assemble? group outer tokens
  | .bar :: tokens => assemble? group.branch outer tokens
  | .opening _ change :: tokens => assemble? ⟨change, [], []⟩ (group :: outer) tokens
  | .closing :: tokens =>
    match outer with
    | [] => none
    | around :: outer =>
      assemble? (around.add (.group group.change group.content)) outer tokens

/-- How deep a pattern may be nested. -/
def heightLimit : Nat := 250

/-- Reads a pattern. -/
def read? (t : Text) : Option Expr :=
  match Token.ofText? t with
  | none => none
  | some tokens =>
    if (tokens.filterMap Token.name?).Nodup then
      (assemble? ⟨{}, [], []⟩ [] tokens).filter fun expr => expr.height ≤ heightLimit
    else none

end DecoderKit.Pattern
