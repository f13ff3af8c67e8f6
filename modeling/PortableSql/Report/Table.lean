import PortableSql.Report.Wrap
import PortableSql.Text.Digits

/-!
# Tables of a report

A table of functions and their counts has a title, a head and a row for each function. Functions
are aligned left and counts right. A column is as wide as its widest cell, and the functions give
way when the table is too wide; a cell that does not fit is broken between words and ends in an
ellipsis where that is not enough.
-/

namespace PortableSql.Report

/-- How lines are placed in their width. -/
inductive Alignment
  | left
  | right
  | center
deriving DecidableEq, Repr

/-- Fills a line to a width. The odd space of a centred line goes to its right. -/
def align (alignment : Alignment) (width : Nat) (line : Text) : Text :=
  match alignment with
  | .left => line ++ Text.spaces (width - Text.cells line)
  | .right =>
    let line := Text.stripRight line
    Text.spaces (width - Text.cells line) ++ line
  | .center =>
    let line := Text.stripRight line
    let lead := (width - Text.cells line) / 2
    let line := Text.spaces lead ++ line
    line ++ Text.spaces (width - Text.cells line)

/-- The lines of a cell. -/
def cellLines (alignment : Alignment) (width : Nat) (cell : Message) : List Message :=
  (cell.lines width .ellipsis).map fun line =>
    let line := if alignment == .left then line else line.withText (Text.stripRight line.text)
    let line := line.withText (shorten width .ellipsis line.text)
    line.withText (align alignment width line.text)

/-- Characters that end a line when a cell is measured. When it is written only a line feed does. -/
def isLineEnd (c : Char) : Bool :=
  CodeRange.covers [(0xa, 0xd), (0x1c, 0x1e), (0x85, 0x85), (0x2028, 0x2029)] c.toNat

/-- The width of a text's widest line. -/
def widest : (used : Nat) → Text → Nat
  | used, [] => used
  | used, c :: cs =>
    if isLineEnd c then max used (widest 0 cs) else widest (used + Text.charCells c) cs

/-- The title of the table. -/
def tableTitle : Text :=
  "Non-Portable Functions Detected".toList

/-- The head of the column of functions. -/
def functionHead : Text :=
  "Function".toList

/-- The head of the column of counts. -/
def countHead : Text :=
  "Count".toList

/-- The spaces on both sides of a cell. -/
def cellPadding : Nat :=
  2

/-- The number of cells that the three upright lines of a table take. -/
def uprightLines : Nat :=
  3

/-- The widths of the two columns, with their padding. -/
def columnWidths (rows : List (Text × Text)) : Nat × Nat :=
  let first := (functionHead :: rows.map (·.1)).map (widest 0)
  let second := (countHead :: rows.map (·.2)).map (widest 0)
  let functions := first.foldl max 0 + cellPadding
  let counts := second.foldl max 0 + cellPadding
  (min functions (reportWidth - uprightLines - counts), counts)

/-- A horizontal line of a table. -/
def rule (left line middle right : Char) (widths : Nat × Nat) : Text :=
  [left] ++ List.replicate widths.1 line ++ [middle] ++ List.replicate widths.2 line ++ [right]

/-- Fills up a cell with empty lines. -/
def fillCell (height width : Nat) (lines : List Text) : List Text :=
  lines ++ List.replicate (height - lines.length) (Text.spaces width)

/-- The lines of a row. -/
def rowLines (upright : Char) (widths : Nat × Nat) (row : Text × Text) : List Text :=
  let inner := (widths.1 - cellPadding, widths.2 - cellPadding)
  let functions := (cellLines .left inner.1 (.ofText row.1)).map (·.text)
  let counts := (cellLines .right inner.2 (.ofText row.2)).map (·.text)
  let height := max functions.length counts.length
  List.zipWith
    (fun a b => [upright, ' '] ++ a ++ [' ', upright, ' '] ++ b ++ [' ', upright])
    (fillCell height inner.1 functions) (fillCell height inner.2 counts)

/-- The lines of a table of plain texts. -/
def tableLines (widths : Nat × Nat) (rows : List (Text × Text)) : List Text :=
  let width := widths.1 + widths.2 + uprightLines
  ((Message.ofText tableTitle).wrap width .fold).map (fun line => align .center width line.text) ++
    [rule '┏' '━' '┳' '┓' widths] ++
    rowLines '┃' widths (functionHead, countHead) ++
    [rule '┡' '━' '╇' '┩' widths] ++
    rows.flatMap (rowLines '│' widths) ++
    [rule '└' '─' '┴' '┘' widths]

/-- The table of functions and their counts, as it is printed. The names of functions may hold
markup. -/
def printedTable (counts : List (Text × Nat)) : Except Fault Text := do
  let functions ← counts.mapM fun (name, _) => Message.ofMarkup name
  let rows := List.zipWith (fun function (_, count) => (function.text, Text.ofNat count))
    functions counts
  let widths := columnWidths rows
  functions.forM fun function =>
    checkStyles (cellLines .left (widths.1 - cellPadding) function)
  return (tableLines widths rows).flatMap (· ++ ['\n'])

end PortableSql.Report
