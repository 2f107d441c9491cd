import DecoderKit.Files.Disk

/-!
# File trees

A file tree keeps its nodes by location: the list of names that leads to a node
from the root, through directories only. A path is walked from the root or from
the working directory. Each name is looked up where the walk stands, which has to
be a directory; a link sends the walk on along its target, from the directory that
holds the link, and only so many links are followed. A slash at the end of a path
asks for a directory, just as a dot behind it would.

`stretch` walks up to the next link and recurses on the names, `walk` recurses on
the number of links that may still be followed, so both end.
-/

namespace DecoderKit

/-- The names that lead to a node from the root. -/
abbrev Location := List Name

/-- What stands at a location. -/
inductive Node
  | directory
  /-- A regular file with its content. -/
  | file (content : Bytes)
  /-- A device that gives no bytes. -/
  | device
  /-- A link with the path it leads to. -/
  | link (target : Bytes)
deriving DecidableEq, Repr

/-- The greatest number of bytes in a name. -/
def nameLimit : Nat := 255

/-- What can be the name of an entry of a directory. -/
structure IsEntryName (name : Name) : Prop where
  nonempty : name ≠ []
  notDot : name ≠ Path.dot
  notDotDot : name ≠ Path.dotDot
  noSlash : Path.slash ∉ name
  noZero : 0 ∉ name
  short : name.length ≤ nameLimit

instance (name : Name) : Decidable (IsEntryName name) :=
  decidable_of_iff (name ≠ [] ∧ name ≠ Path.dot ∧ name ≠ Path.dotDot ∧ Path.slash ∉ name
      ∧ 0 ∉ name ∧ name.length ≤ nameLimit)
    ⟨fun ⟨h₁, h₂, h₃, h₄, h₅, h₆⟩ => ⟨h₁, h₂, h₃, h₄, h₅, h₆⟩,
      fun ⟨h₁, h₂, h₃, h₄, h₅, h₆⟩ => ⟨h₁, h₂, h₃, h₄, h₅, h₆⟩⟩

/-- Nodes by location, and the directory where relative paths start. -/
structure FileTree where
  nodes : List (Location × Node)
  working : Location
  named : ∀ node ∈ nodes, ∀ name ∈ node.1, IsEntryName name := by decide
deriving DecidableEq, Repr

/-- The order in which a system lists its directories: some rearrangement of the names of each. -/
structure Enumeration where
  arrange : Location → List Name → List Name
  perm : ∀ place names, (arrange place names).Perm names

/-- The order in which the names came. -/
def Enumeration.kept : Enumeration := ⟨fun _ names => names, fun _ names => .refl names⟩

namespace FileTree

/-- The node at a location. The root is a directory. -/
def node? (tree : FileTree) : Location → Option Node
  | [] => some .directory
  | place => tree.nodes.lookup place

/-- The name of a location in a directory, if it stands directly in it. -/
def nameIn? (directory place : Location) : Option Name :=
  if place.dropLast = directory then place.getLast? else none

/-- The names directly in a directory, each once. -/
def namesIn (tree : FileTree) (directory : Location) : List Name :=
  (tree.nodes.filterMap fun node => nameIn? directory node.1).eraseDups

/-- The names in a directory are those that lead to a node from there. -/
theorem mem_namesIn {tree : FileTree} {directory : Location} {name : Name} :
    name ∈ tree.namesIn directory ↔ ∃ node, (directory ++ [name], node) ∈ tree.nodes := by
  simp only [namesIn, List.mem_eraseDups, List.mem_filterMap, Prod.exists]
  constructor
  · rintro ⟨place, node, hm, hn⟩
    rw [nameIn?] at hn
    split at hn
    · rename_i hd
      obtain ⟨init, rfl⟩ := List.getLast?_eq_some_iff.mp hn
      rw [List.dropLast_concat] at hd
      exact ⟨node, hd ▸ hm⟩
    · cases hn
  · rintro ⟨node, hm⟩
    exact ⟨_, node, hm, by simp [nameIn?]⟩

/-- The number of bytes that a path does not reach. -/
def pathLimit : Nat := 4096

/-- How many links a walk follows. -/
def linkLimit : Nat := 40

/-- The names to look up along a path; a slash at its end is a last step to the same place. -/
def namesOf (path : Bytes) : List Name :=
  piecesBetween (· == Path.slash) path
    ++ (if path.getLast? = some Path.slash then [Path.dot] else [])

/-- Where a path starts that is met in a directory. -/
def startOf (directory : Location) (path : Bytes) : Location :=
  if path.head? = some Path.slash then [] else directory

/-- How far names lead until there is a link. -/
inductive Stretch
  /-- To a node that is no link. -/
  | found (place : Location)
  /-- To a directory that has no entry of the last name. -/
  | vacant (place : Location)
  /-- To a link in a directory, with names still to look up behind it. -/
  | link (directory : Location) (target : Bytes) (rest : List Name)
deriving DecidableEq, Repr

/-- Looks up names from a place on, up to the next link. -/
def stretch (tree : FileTree) (place : Location) : List Name → Except IoError Stretch
  | [] => .ok (.found place)
  | name :: rest =>
    if tree.node? place ≠ some .directory then .error .notDirectory
    else if name = Path.dot then tree.stretch place rest
    else if name = Path.dotDot then tree.stretch place.dropLast rest
    else if nameLimit < name.length then .error .nameTooLong
    else
      match tree.node? (place ++ [name]) with
      | none => if rest = [] then .ok (.vacant (place ++ [name])) else .error .noEntry
      | some (.link target) => .ok (.link place target rest)
      | some _ => tree.stretch (place ++ [name]) rest

/-- Where a walk ends. -/
inductive Spot
  /-- At a node that is no link. -/
  | found (place : Location)
  /-- At a name that its directory does not have. -/
  | vacant (place : Location)
deriving DecidableEq, Repr

/-- Looks up names from a place on, following links while `links` lasts. -/
def walk (tree : FileTree) (links : Nat) (place : Location) (names : List Name) :
    Except IoError Spot :=
  match tree.stretch place names with
  | .error e => .error e
  | .ok (.found place) => .ok (.found place)
  | .ok (.vacant place) => .ok (.vacant place)
  | .ok (.link directory target rest) =>
    match links with
    | 0 => .error .tooManyLinks
    | links + 1 => tree.walk links (startOf directory target) (namesOf target ++ rest)

/-- The spot that a path leads to. -/
def locate (tree : FileTree) (p : Path) : Except IoError Spot :=
  if 0 ∈ p.bytes then .error .zeroByte
  else if p.bytes = [] then .error .noEntry
  else if pathLimit ≤ p.bytes.length then .error .nameTooLong
  else tree.walk linkLimit (startOf tree.working p.bytes) (namesOf p.bytes)

/-- The location of the node that a path leads to. -/
def resolve (tree : FileTree) (p : Path) : Except IoError Location :=
  match tree.locate p with
  | .error e => .error e
  | .ok (.found place) => .ok place
  | .ok (.vacant _) => .error .noEntry

/-- What stands at a location, for a program. -/
def kindAt (tree : FileTree) (place : Location) : FileKind :=
  match tree.node? place with
  | some .directory => .directory
  | some (.file _) => .regular
  | _ => .special

/-- The names in the directory at a location. -/
def entriesAt (tree : FileTree) (order : Enumeration) (place : Location) :
    Except IoError (List Name) :=
  match tree.node? place with
  | some .directory => .ok (order.arrange place (tree.namesIn place))
  | _ => .error .notDirectory

/-- The content of the node at a location. -/
def contentAt (tree : FileTree) (place : Location) : Except IoError Bytes :=
  match tree.node? place with
  | some .directory => .error .isDirectory
  | some (.file content) => .ok content
  | _ => .ok []

/-- A file tree as a program sees it. -/
def disk (tree : FileTree) (order : Enumeration := .kept) : Disk where
  entries p := (tree.resolve p).bind (tree.entriesAt order)
  kind p := (tree.resolve p).map tree.kindAt
  content p := (tree.resolve p).bind tree.contentAt

end FileTree

end DecoderKit
