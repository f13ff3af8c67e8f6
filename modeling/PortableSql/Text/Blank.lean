import PortableSql.Text.CodeRange

/-!
# Blank characters

The characters that separate words and that stripping removes: the Unicode separators and the
controls that act as such (tab to carriage return, the four information separators, next line).
A zero-width space is not blank.
-/

namespace PortableSql.Text

/-- The blank characters. -/
def blankRanges : List CodeRange :=
  [(0x9, 0xd), (0x1c, 0x20), (0x85, 0x85), (0xa0, 0xa0), (0x1680, 0x1680), (0x2000, 0x200a),
    (0x2028, 0x2029), (0x202f, 0x202f), (0x205f, 0x205f), (0x3000, 0x3000)]

/-- Blank characters separate words and are removed by stripping. -/
def isBlank (c : Char) : Bool :=
  CodeRange.covers blankRanges c.toNat

/-- Drops the leading blanks. -/
def stripLeft (t : Text) : Text :=
  t.dropWhile isBlank

/-- Drops the trailing blanks. -/
def stripRight (t : Text) : Text :=
  trimEnd isBlank t

/-- Drops the blanks at both ends. -/
def strip (t : Text) : Text :=
  stripRight (stripLeft t)

/-- Splits at runs of blanks; no word is empty. -/
def words (t : Text) : List Text :=
  (t.splitBy fun a b => isBlank a == isBlank b).filter fun run => run.any fun c => !isBlank c

end PortableSql.Text
