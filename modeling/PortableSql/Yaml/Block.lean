import PortableSql.Yaml.Quoted

/-!
# Block scalars

A block scalar is a header line and the indented lines after it. The header says whether lines are
kept or folded, what becomes of the line ends at the end, and how far the lines are indented; by
default the first line that is not empty decides about that.
-/

namespace PortableSql.Yaml

/-- What becomes of the line ends at the end of a block scalar. -/
inductive Chomping
  /-- One is kept. -/
  | clip
  /-- None is kept. -/
  | strip
  /-- All are kept. -/
  | keep
deriving DecidableEq, Repr

/-- The header of a block scalar. -/
structure BlockHeader where
  /-- What becomes of the line ends at the end. -/
  chomping : Chomping
  /-- The indentation beyond that of the parent, if it is given. -/
  increment : Option Nat
  /-- The number of characters read. -/
  length : Nat
deriving DecidableEq, Repr

/-- The chomping that a character asks for. -/
def chomping? (c : Option Char) : Option Chomping :=
  if c == some '+' then some .keep else if c == some '-' then some .strip else none

/-- The indentation that a character asks for. -/
def increment? (c : Option Char) : Option Nat :=
  c.bind fun d => if '0' ≤ d && d ≤ '9' then some (d.toNat - 48) else none

/-- The signs after the indicator of a block scalar, in either order. -/
def blockSigns (t : Text) : BlockHeader :=
  match chomping? t.head? with
  | some chomping =>
    match increment? (t.drop 1).head? with
    | some n => ⟨chomping, some n, 2⟩
    | none => ⟨chomping, none, 1⟩
  | none =>
    match increment? t.head? with
    | some n =>
      match chomping? (t.drop 1).head? with
      | some chomping => ⟨chomping, some n, 2⟩
      | none => ⟨.clip, some n, 1⟩
    | none => ⟨.clip, none, 0⟩

/-- The length of spaces and a comment through the end of the line, where nothing else may
stand. -/
def ignoredLine (t : Text) : Except Fault Nat :=
  let blanks := leadingSpaces t
  let rest := t.drop blanks
  let comment := if rest.head? == some '#' then restOfLine rest else 0
  match rest.drop comment with
  | [] => .ok (blanks + comment)
  | c :: _ => if isBreak c then .ok (blanks + comment + 1) else .error badToken

/-- The header of a block scalar from after its indicator through the end of its line. -/
def blockHeader (t : Text) : Except Fault BlockHeader := do
  let signs := blockSigns t
  if signs.increment == some 0 then throw badToken
  if !isSpaceOrEnd (t.drop signs.length).head? then throw badToken
  let rest ← ignoredLine (t.drop signs.length)
  return { signs with length := signs.length + rest }

/-- Empty lines and indentation. -/
structure BlockGap where
  /-- What the line ends stand for. -/
  breaks : Text
  /-- The number of characters read. -/
  length : Nat
  /-- The column that is reached. -/
  column : Nat
  /-- The largest column that was reached by spaces. -/
  widest : Nat
deriving DecidableEq, Repr

/-- Passes over empty lines and over the spaces of a line, as long as their column is less than
`limit`. -/
def blockGap (limit : Option Nat) (column : Nat) : Text → BlockGap
  | [] => ⟨[], 0, column, 0⟩
  | c :: cs =>
    if c == ' ' && limit.all (column < ·) then
      let gap := blockGap limit (column + 1) cs
      { gap with length := gap.length + 1, widest := max gap.widest (column + 1) }
    else if isBreak c then
      let gap := blockGap limit 0 cs
      { gap with breaks := breakText c ++ gap.breaks, length := gap.length + 1 }
    else ⟨[], 0, column, 0⟩

/-- The lines of a block scalar that were read. -/
structure BlockLines where
  /-- What the lines say, up to the last line end. -/
  text : Text
  /-- What the last line end stands for. -/
  lineBreak : Text
  /-- What the line ends after the last line stand for. -/
  breaks : Text
  /-- The number of characters read. -/
  length : Nat
deriving DecidableEq, Repr

/-- What a line end between two lines becomes, with the empty lines after it. -/
def lineJoint (folded : Bool) (line : Text) (lineBreak : Text) (breaks : Text)
    (next : Option Char) : Text :=
  let indented (c : Option Char) : Bool := c == some ' ' || c == some '\t'
  if folded && lineBreak == ['\n'] && !indented line.head? && !indented next then
    if breaks.isEmpty then [' '] else []
  else lineBreak

/-- Reads lines with the given indentation. The count says how many characters of a line and of
the gap after it are still to be passed over. What the lines say is held with its last character
first. -/
def blockLines (folded : Bool) (indent : Nat) :
    Nat → (column : Nat) → BlockLines → Text → BlockLines
  | _, _, found, [] => found
  | skip + 1, column, found, _ :: cs => blockLines folded indent skip column found cs
  | 0, column, found, c :: cs =>
    if column != indent then found
    else
      let width := restOfLine (c :: cs)
      let line := (c :: cs).take width
      let ending := (((c :: cs).drop width).head?).toList
      let lineBreak := ending.flatMap breakText
      let after := (c :: cs).drop (width + ending.length)
      let startColumn := if ending.isEmpty then column + width else 0
      let gap := blockGap (some indent) startColumn after
      let next := (after.drop gap.length).head?
      let text := line.reverse ++ found.breaks.reverse ++ found.text
      let length := width + ending.length + gap.length
      if gap.column == indent && next.isSome then
        let joint := lineJoint folded line lineBreak gap.breaks next
        blockLines folded indent (length - 1) gap.column
          ⟨joint.reverse ++ text, lineBreak, gap.breaks, found.length + length⟩ cs
      else ⟨text, lineBreak, gap.breaks, found.length + length⟩

/-- The block scalar that starts here with its indicator, in a collection of the given
indentation: what it says, and its length. -/
def readBlock (folded : Bool) (parent : Int) (t : Text) : Except Fault (Text × Nat) := do
  let header ← blockHeader (t.drop 1)
  let body := t.drop (header.length + 1)
  let least := (max (parent + 1) 1).toNat
  let (indent, gap) := match header.increment with
    | none =>
      let gap := blockGap none 0 body
      (max least gap.widest, gap)
    | some n =>
      let indent := least + n - 1
      (indent, blockGap (some indent) 0 body)
  let lines := blockLines folded indent 0 gap.column ⟨[], [], gap.breaks, gap.length⟩
    (body.drop gap.length)
  let tail := match header.chomping with
    | .strip => []
    | .clip => lines.lineBreak
    | .keep => lines.lineBreak ++ lines.breaks
  return (lines.text.reverse ++ tail, header.length + 1 + lines.length)

end PortableSql.Yaml
