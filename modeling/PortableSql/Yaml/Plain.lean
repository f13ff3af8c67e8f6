import PortableSql.Yaml.Character

/-!
# Plain scalars

A scalar without quotes goes on over several lines as long as they are indented enough. A line end
between two of its lines becomes a space, and further line ends stand for themselves. Inside
brackets the indentation does not matter, but the characters that structure a collection end the
scalar.
-/

namespace PortableSql.Yaml

/-- Characters that end a plain scalar inside brackets. -/
def flowIndicators : Text :=
  ",?[]\x7b\x7d".toList

/-- Characters that make a colon in front of them end a plain scalar inside brackets. -/
def flowBrackets : Text :=
  ",[]\x7b\x7d".toList

/-- Whether a colon ends a plain scalar, by the character after it. -/
def endsAfterColon (inFlow : Bool) (next : Option Char) : Bool :=
  isBlankOrEnd next || inFlow && next.any fun c => flowBrackets.contains c

/-- The length of the run of a plain scalar without blanks. -/
def plainRun (inFlow : Bool) : Text → Nat
  | [] => 0
  | c :: cs =>
    if isBlankOrEnd (some c) || (c == ':' && endsAfterColon inFlow cs.head?) ||
        (inFlow && flowIndicators.contains c) then 0
    else plainRun inFlow cs + 1

/-- What stands between two runs of a plain scalar. -/
structure PlainGap where
  /-- What the gap becomes; nothing if a document separator follows. -/
  text : Option Text
  /-- The number of characters in the gap. -/
  length : Nat
  /-- Whether the gap holds a line end. -/
  breaksLine : Bool
deriving DecidableEq, Repr

/-- The line ends and spaces after a first line end: what the line ends stand for, unless a
document separator follows one of them, and their length. -/
def plainBreaks : Text → Option Text × Nat
  | [] => (some [], 0)
  | c :: cs =>
    if c == ' ' then
      let (breaks, n) := plainBreaks cs
      (breaks, n + 1)
    else if isBreak c then
      if isSeparator cs then (none, 1)
      else
        let (breaks, n) := plainBreaks cs
        (breaks.map (breakText c ++ ·), n + 1)
    else (some [], 0)

/-- The folded form of a line end followed by further ones. -/
def foldBreak (c : Char) (breaks : Text) : Text :=
  if breakText c != ['\n'] then breakText c ++ breaks
  else if breaks.isEmpty then [' '] else breaks

/-- The gap that starts here. -/
def plainGap (t : Text) : PlainGap :=
  let blanks := leadingSpaces t
  match t.drop blanks with
  | c :: cs =>
    if isBreak c then
      if isSeparator cs then ⟨none, blanks + 1, true⟩
      else
        let (breaks, n) := plainBreaks cs
        ⟨breaks.map (foldBreak c), blanks + 1 + n, true⟩
    else ⟨some (t.take blanks), blanks, false⟩
  | [] => ⟨some (t.take blanks), blanks, false⟩

/-- A scalar that was read. -/
structure PlainScalar where
  /-- What the scalar says. -/
  text : Text
  /-- The number of characters read, with the gap after the scalar. -/
  length : Nat
  /-- Whether the gap after the scalar holds a line end. -/
  breaksLine : Bool
deriving DecidableEq, Repr

/-- Reads runs and gaps. The count says how many characters of a run and its gap are still to be
passed over. The text that was found is held with its last character first. -/
def plainFrom (inFlow : Bool) (indent : Int) :
    Nat → (gap : Text) → Mark → PlainScalar → Text → PlainScalar
  | _, _, _, found, [] => found
  | skip + 1, gap, mark, found, _ :: cs => plainFrom inFlow indent skip gap mark found cs
  | 0, gap, mark, found, c :: cs =>
    let run := plainRun inFlow (c :: cs)
    if c == '#' || run == 0 then found
    else
      let after := plainGap ((c :: cs).drop run)
      let length := run + after.length
      let found : PlainScalar :=
        ⟨((c :: cs).take run).reverse ++ gap.reverse ++ found.text, found.length + length,
          after.breaksLine⟩
      let mark := mark.advance ((c :: cs).take length)
      match after.text with
      | none => found
      | some gap =>
        if gap.isEmpty || ((c :: cs).drop length).head? == some '#' ||
            (!inFlow && (mark.column : Int) < indent) then found
        else plainFrom inFlow indent (length - 1) gap mark found cs

/-- The plain scalar that starts here. -/
def readPlain (inFlow : Bool) (indent : Int) (mark : Mark) (t : Text) : PlainScalar :=
  let scalar := plainFrom inFlow indent 0 [] mark ⟨[], 0, false⟩ t
  { scalar with text := scalar.text.reverse }

end PortableSql.Yaml
