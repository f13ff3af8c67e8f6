import PortableSql.Report.Markup
import PortableSql.Text.Width

/-!
# Lines of a report

A line that is wider than the report is broken in front of words. A word that is wider than a
whole line is cut into pieces of a line each, or left whole where a line is shortened anyway. The
blanks after a word belong to it and may stick out; what sticks out is dropped. Styles are cut with
the text, and a style of which nothing is left is not looked at.
-/

namespace PortableSql.Report

/-- The number of cells in a line of a report. -/
def reportWidth : Nat :=
  80

/-- The words of a line, each with the blanks around it: those in front of the first word belong to
it. The arguments are the word so far, in reverse, and whether it has a character that is not
blank. -/
def wordsFrom : (word : Text) → (begun ended : Bool) → Text → List Text
  | word, begun, _, [] => if begun then [word.reverse] else []
  | word, begun, ended, c :: cs =>
    if Text.isBlank c then wordsFrom (c :: word) begun begun cs
    else if ended then word.reverse :: wordsFrom [c] true false cs
    else wordsFrom (c :: word) true false cs

/-- The words of a line with the blanks around them. -/
def lineWords (line : Text) : List Text :=
  wordsFrom [] false false line

/-- Cuts a text into pieces that are at most `width` cells wide. The arguments are the piece so
far, in reverse, and its width. -/
def chopFrom (width : Nat) : (piece : Text) → (used : Nat) → Text → List Text
  | piece, _, [] => [piece.reverse]
  | piece, used, c :: cs =>
    if width < used + Text.charCells c then
      piece.reverse :: chopFrom width [c] (Text.charCells c) cs
    else chopFrom width (c :: piece) (used + Text.charCells c) cs

/-- Cuts a text into pieces that are at most `width` cells wide. -/
def chop (width : Nat) (t : Text) : List Text :=
  chopFrom width [] 0 t

/-- The line so far as a list of lines: an empty line is none. -/
def closedLine (line : Text) : List Text :=
  if line.isEmpty then [] else [line]

/-- Puts words into lines. The arguments are the line so far and the cells it takes. No character
is lost: the lines together are the words together. -/
def fillLines (width : Nat) (fold : Bool) : (line : Text) → (used : Nat) → List Text → List Text
  | line, _, [] => [line]
  | line, used, word :: words =>
    let size := Text.cells (Text.stripRight word)
    if used + size ≤ width then
      fillLines width fold (line ++ word) (used + Text.cells word) words
    else if size ≤ width then
      if used == 0 || line.isEmpty then fillLines width fold (line ++ word) used words
      else line :: fillLines width fold word (Text.cells word) words
    else
      let parts := if fold then chop width word else [word]
      let last := parts.getLast?.getD []
      closedLine line ++ parts.dropLast ++ fillLines width fold last (Text.cells last) words

/-- Drops the blanks at the end of a line that stick out. -/
def trimEnd (width : Nat) (line : Text) : Text :=
  let excess := line.length - width
  let blanks := (line.reverse.takeWhile Text.isBlank).length
  line.take (line.length - min excess blanks)

/-- Replaces tabs by spaces up to the next multiple of eight cells. -/
def expandTabs : (used : Nat) → Text → Text
  | _, [] => []
  | used, c :: cs =>
    if c == '\t' then
      let n := 8 - used % 8
      Text.spaces n ++ expandTabs (used + n) cs
    else c :: expandTabs (used + Text.charCells c) cs

/-- Cuts a text to `width` cells. Halving finds the cut between two positions: several cuts have the
same width where characters without a cell follow, and the first one found is taken. Half of a wide
character becomes a space. Each step brings the positions closer, so the length of the text is fuel
enough. -/
def cutBetween (width : Nat) (t : Text) : (fuel first last : Nat) → Text
  | 0, first, _ => t.take first
  | fuel + 1, first, last =>
    let middle := (first + last) / 2
    let lead := t.take (middle + 1)
    let used := Text.cells lead
    if used == width + 1 && (lead.getLast?.map Text.charCells) == some 2 then lead.dropLast ++ [' ']
    else if used == width then lead
    else if width < used then cutBetween width t fuel first middle
    else cutBetween width t fuel middle last

/-- A text cut or filled to `width` cells. -/
def fit (width : Nat) (t : Text) : Text :=
  let used := Text.cells t
  if used ≤ width then t ++ Text.spaces (width - used)
  else if width == 0 then []
  else cutBetween width t (t.length + 1) 0 t.length

/-- What becomes of a line that is too wide. -/
inductive Overflow
  /-- Its words are cut into several lines. -/
  | fold
  /-- It ends in an ellipsis. -/
  | ellipsis
deriving DecidableEq, Repr

/-- Shortens a line that is too wide. -/
def shorten (width : Nat) (overflow : Overflow) (line : Text) : Text :=
  if Text.cells line ≤ width then line
  else match overflow with
    | .fold => fit width line
    | .ellipsis => fit (width - 1) line ++ ['…']

/-! ## Parts of a message -/

/-- The part of a span between two places, counted from the first of them, if it has any
characters. -/
def Span.within? (first last : Nat) (span : Span) : Option Span :=
  let start := max first span.first
  let stop := min last span.last
  if start < stop then some ⟨start - first, stop - first, span.style⟩ else none

namespace Message

/-- A message without styles. -/
def ofText (t : Text) : Message :=
  ⟨t, []⟩

/-- The parts of a message with the given texts. The first one starts at the given place, and a gap
is left between them. -/
def partsFrom (message : Message) (gap : Nat) : (first : Nat) → List Text → List Message
  | _, [] => []
  | first, t :: ts =>
    ⟨t, message.spans.filterMap (Span.within? first (first + t.length))⟩ ::
      message.partsFrom gap (first + t.length + gap) ts

/-- Cuts a message into parts with the given texts. Spans without characters are lost, unless the
message stays whole. -/
def cut (message : Message) (gap : Nat) (texts : List Text) : List Message :=
  if texts.length ≤ 1 then [message] else message.partsFrom gap 0 texts

/-- The message with another text. A shorter text cuts the spans, and those that start behind its
end are lost. -/
def withText (message : Message) (t : Text) : Message :=
  if t.length < message.text.length then
    ⟨t, (message.spans.filter fun span => span.first < t.length).map fun span =>
      { span with last := min span.last t.length }⟩
  else ⟨t, message.spans⟩

/-- Replaces tabs by spaces. Where there are any, spans without characters are lost. -/
def withoutTabs (message : Message) : Message :=
  if message.text.contains '\t' then
    let place (n : Nat) : Nat := (expandTabs 0 (message.text.take n)).length
    ⟨expandTabs 0 message.text,
      (message.spans.filter fun span => span.first < span.last).map fun span =>
        { span with first := place span.first, last := place span.last }⟩
  else message

/-- The lines of a message of one line, without those blanks at their ends that stick out. -/
def breakLine (width : Nat) (overflow : Overflow) (message : Message) : List Message :=
  let expanded := message.withoutTabs
  let lines := match lineWords expanded.text with
    | [] => [expanded]
    | words => expanded.cut 0 (fillLines width (overflow == Overflow.fold) [] 0 words)
  lines.map fun line => line.withText (trimEnd width line.text)

/-- The lines of a message, which may still be too wide. -/
def lines (width : Nat) (overflow : Overflow) (message : Message) : List Message :=
  (message.cut 1 (Text.splitOn '\n' message.text)).flatMap (breakLine width overflow)

/-- The lines of a message. -/
def wrap (width : Nat) (overflow : Overflow) (message : Message) : List Message :=
  (message.lines width overflow).map fun line => line.withText (shorten width overflow line.text)

end Message

/-- The styles of lines are read when they are printed. -/
def checkStyles (lines : List Message) : Except Fault Unit :=
  lines.forM fun line => line.spans.forM fun span => discard (Style.ofText span.style)

/-- A message as it is printed, with a line feed at the end. -/
def printed (markup : Text) : Except Fault Text := do
  let lines := (← Message.ofMarkup markup).wrap reportWidth .fold
  checkStyles lines
  return Text.join ['\n'] (lines.map (·.text)) ++ ['\n']

end PortableSql.Report
