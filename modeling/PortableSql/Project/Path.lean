import PortableSql.Text.Digits

/-!
# Paths

A path is a list of names under an anchor. Empty names and single points are dropped when a path
is read, and a path to the parent is kept as it is. Two slashes at the start, and no more, are an
anchor of their own.

A name may hold half of a character. No name holds a slash otherwise, so a slash in a name marks
such a half: some of them stand for a byte that is no text, and the others for nothing that a name
of a file can hold.
-/

namespace PortableSql

/-- Where a path starts. -/
inductive Anchor
  | relative
  | root
  | doubleRoot
deriving DecidableEq, Repr

/-- A path. -/
structure Path where
  /-- Where the path starts. -/
  anchor : Anchor
  /-- The names of the path. -/
  parts : List Text
deriving DecidableEq, Repr

namespace Path

/-- The anchor of a path as it is written. -/
def anchorOf (t : Text) : Anchor :=
  match (t.takeWhile (· == '/')).length with
  | 0 => .relative
  | 2 => .doubleRoot
  | _ => .root

/-- Reads a path. -/
def ofText (t : Text) : Path :=
  ⟨anchorOf t, (Text.splitOn '/' t).filter fun part => !part.isEmpty && part != ['.']⟩

/-- How a name holds the character or the half of one that has a code. -/
def nameChars (code : Nat) : Text :=
  if !Text.isHalfCode code then [Char.ofNat code]
  else if 0xdc80 ≤ code && code ≤ 0xdcff then ['/', Char.ofNat (code - 0xdc00)]
  else ['/', '/']

/-- The names between slashes, by their codes. -/
def namesOf : List Nat → List Text
  | [] => [[]]
  | code :: codes =>
    if code == '/'.toNat then [] :: namesOf codes
    else match namesOf codes with
      | [] => [nameChars code]
      | name :: names => (nameChars code ++ name) :: names

/-- Reads a path from its codes, of which some may stand for half of a character. -/
def ofCodes (codes : List Nat) : Path :=
  ⟨anchorOf (codes.map Text.charOf), (namesOf codes).filter fun name =>
    !name.isEmpty && name != ['.']⟩

/-- Whether no name holds half of a character. -/
def isWhole (path : Path) : Bool :=
  path.parts.all fun name => !name.contains '/'

/-- Whether the names can be encoded. -/
def isEncodable (path : Path) : Bool :=
  path.parts.all fun name => !Text.includes name ['/', '/']

/-- The path of a folder followed by another path. A path with an anchor stands alone. -/
def join (folder path : Path) : Path :=
  match path.anchor with
  | .relative => ⟨folder.anchor, folder.parts ++ path.parts⟩
  | _ => path

/-- The path without its last name. -/
def parent (path : Path) : Path :=
  ⟨path.anchor, path.parts.dropLast⟩

/-- The path followed by names. -/
def append (path : Path) (names : List Text) : Path :=
  ⟨path.anchor, path.parts ++ names⟩

/-- What an anchor is written as. -/
def shownAnchor : Anchor → Text
  | .relative => []
  | .root => ['/']
  | .doubleRoot => ['/', '/']

/-- A path as text. -/
def shown (path : Path) : Text :=
  match shownAnchor path.anchor ++ Text.join ['/'] path.parts with
  | [] => ['.']
  | t => t

end Path

end PortableSql
