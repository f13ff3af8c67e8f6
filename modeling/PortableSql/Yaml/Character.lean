import PortableSql.Text.Basic

/-!
# Characters of a settings document

The text of a document has line feeds as line ends; the next-line character and the two Unicode
separators end a line too. What follows a token is judged by the next character, and the end of
the text counts as a blank.
-/

namespace PortableSql.Yaml

/-- Characters that a document may hold. -/
def isAllowed (c : Char) : Bool :=
  let n := c.toNat
  n == 0x09 || n == 0x0a || n == 0x0d || (0x20 ≤ n && n ≤ 0x7e) || n == 0x85 ||
    (0xa0 ≤ n && n ≤ 0xfffd) || 0x10000 ≤ n

/-- Characters that end a line. -/
def isBreak (c : Char) : Bool :=
  c == '\n' || c == '\x85' || c == '\u2028' || c == '\u2029'

/-- What a line end stands for in a text: a line feed, unless it is one of the separators. -/
def breakText (c : Char) : Text :=
  if c == '\u2028' || c == '\u2029' then [c] else ['\n']

/-- The end of a line or of the text. -/
def isLineEnd : Option Char → Bool
  | none => true
  | some c => isBreak c

/-- A space, or the end of a line or of the text. -/
def isSpaceOrEnd (c : Option Char) : Bool :=
  c == some ' ' || isLineEnd c

/-- A space or tab, or the end of a line or of the text. -/
def isBlankOrEnd (c : Option Char) : Bool :=
  c == some '\t' || isSpaceOrEnd c

/-- Letters, digits, hyphens and underscores of ASCII, of which names are made. -/
def isNameChar (c : Char) : Bool :=
  'a' ≤ c && c ≤ 'z' || 'A' ≤ c && c ≤ 'Z' || '0' ≤ c && c ≤ '9' || c == '-' || c == '_'

/-- Whether a line that starts here is a document marker made of three characters. -/
def isMarker (c : Char) (t : Text) : Bool :=
  t.take 3 == [c, c, c] && isBlankOrEnd (t.drop 3).head?

/-- Whether a line that starts here separates documents. -/
def isSeparator (t : Text) : Bool :=
  isMarker '-' t || isMarker '.' t

/-- The number of characters in front of the end of the line. -/
def restOfLine (t : Text) : Nat :=
  (t.takeWhile fun c => !isBreak c).length

/-- The number of leading spaces. -/
def leadingSpaces (t : Text) : Nat :=
  (t.takeWhile (· == ' ')).length

/-- A place in a text. -/
structure Mark where
  /-- The number of characters before it. -/
  index : Nat
  /-- The number of lines before it. -/
  line : Nat
  /-- The number of characters before it on its line. -/
  column : Nat
deriving DecidableEq, Repr

namespace Mark

/-- The place after one character. A byte order mark takes no column. -/
def next (mark : Mark) (c : Char) : Mark :=
  if isBreak c then ⟨mark.index + 1, mark.line + 1, 0⟩
  else if c == '\ufeff' then ⟨mark.index + 1, mark.line, mark.column⟩
  else ⟨mark.index + 1, mark.line, mark.column + 1⟩

/-- The place after a text. -/
def advance (mark : Mark) (t : Text) : Mark :=
  t.foldl next mark

end Mark

end PortableSql.Yaml
