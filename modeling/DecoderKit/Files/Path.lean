import DecoderKit.Text.Quoted
import DecoderKit.Text.Split

/-!
# Paths

A path is any string of bytes. It is shown in two forms: `display` decodes it,
with replacement characters for what is no text, and `quoted` keeps every byte
recognisable. Two spellings can name the same thing by their components, which
leave out repeated slashes and dots that lead nowhere; that is how the path that
stands for the standard input is recognised, and how paths are ordered.
-/

namespace DecoderKit

/-- The name of an entry of a directory. -/
abbrev Name := Bytes

/-- A path as its bytes. -/
structure Path where
  bytes : Bytes
deriving DecidableEq, Repr

namespace Path

/-- The byte between the components of a path. -/
def slash : UInt8 := 0x2f

/-- The name of a directory in itself. -/
def dot : Name := [0x2e]

/-- The name of a directory's parent in it. -/
def dotDot : Name := [0x2e, 0x2e]

/-- The path that a text spells. -/
def ofText (t : Text) : Path := ⟨Utf8.encode t⟩

/-- The text of a path, for messages and lists. -/
def display (p : Path) : Text := Utf8.decodeLossy p.bytes

/-- A path in double quotes. -/
def quoted (p : Path) : Text := Quoted.quoteBytes p.bytes

/-- Whether the displayed text is the path itself. -/
def isText (p : Path) : Bool := Utf8.isValid p.bytes

/-- The path of an entry: a slash goes between, unless there is one or nothing before it. -/
def join (directory : Path) (name : Name) : Path :=
  if directory.bytes = [] ∨ directory.bytes.getLast? = some slash then
    ⟨directory.bytes ++ name⟩
  else ⟨directory.bytes ++ slash :: name⟩

/-- A step of a path. Steps of different kinds are ordered as the kinds stand here, entries by the
bytes of their names. -/
inductive Component
  /-- The slash that starts an absolute path. -/
  | root
  /-- The dot that starts a relative path. -/
  | here
  /-- The parent directory. -/
  | up
  /-- An entry. -/
  | name (name : Name)
deriving DecidableEq, Repr, Ord

/-- The step that a part between slashes stands for; empty parts and dots stand for none. -/
def component? (part : Name) : Option Component :=
  if part = [] ∨ part = dot then none
  else if part = dotDot then some .up
  else some (.name part)

/-- The steps of a path. Only at the start of a relative path does a dot count. -/
def components (p : Path) : List Component :=
  let parts := p.bytes.splitOn slash
  let steps := parts.filterMap component?
  if p.bytes.head? = some slash then .root :: steps
  else if parts.head? = some dot then .here :: steps
  else steps

/-- Whether a path stands no later than another in the order of their steps, of which the first
that differ decide. -/
def isNoLater (p q : Path) : Bool := (compare p.components q.components).isLE

/-- The path that stands for the standard input is a hyphen, by its components. -/
def isStandardInput (p : Path) : Bool := p.components == [.name [0x2d]]

end Path

end DecoderKit
