import PortableSql.Report.Emoji
import PortableSql.Report.Literal.Expression
import PortableSql.Report.Style
import PortableSql.Sorting

/-!
# Markup of messages

A message may hold style tags: a name between brackets opens a style, and the same name after a
slash closes it. A report without colours drops the tags. Brackets whose content starts with
anything but a small letter, a number sign, a slash or an at sign are no tags. A backslash in front
of a tag makes it plain text. In plain text, names between colons become emoji.

A closing tag must close a tag that is open. A tag that starts with an at sign is a handler, whose
parameters are a literal; it is read when the tag is closed.
-/

namespace PortableSql.Report

/-- A style tag, cut at its first equals sign. -/
structure StyleTag where
  /-- The name of the tag; it starts with a slash in a closing tag. -/
  name : Text
  /-- What follows the equals sign, if there is one. -/
  parameters : Option Text
deriving DecidableEq, Repr

namespace StyleTag

/-- The tag with the given text between its brackets. -/
def ofText (t : Text) : StyleTag :=
  let name := t.takeWhile (· != '=')
  ⟨name, if name.length < t.length then some (t.drop (name.length + 1)) else none⟩

/-- The tag as it is written. -/
def shown (tag : StyleTag) : Text :=
  match tag.parameters with
  | none => ['['] ++ tag.name ++ [']']
  | some parameters => ['['] ++ tag.name ++ ['='] ++ parameters ++ [']']

end StyleTag

/-- A piece of a message. -/
inductive Piece
  | plain (t : Text)
  /-- A tag and its position in the message. -/
  | tag (position : Nat) (tag : StyleTag)
deriving DecidableEq, Repr

/-- Characters that the content of a tag starts with. -/
def startsTag (c : Char) : Bool :=
  'a' ≤ c && c ≤ 'z' || c == '#' || c == '/' || c == '@'

/-- The content of a tag whose brackets start here. -/
def tagContent? (t : Text) : Option Text :=
  match t with
  | '[' :: c :: cs =>
    let rest := cs.takeWhile fun d => d != '[' && d != ']'
    if startsTag c && (cs.drop rest.length).head? == some ']' then some (c :: rest) else none
  | _ => none

/-- Controls that a report drops. -/
def isDroppedControl (c : Char) : Bool :=
  [7, 8, 11, 12, 13].contains c.toNat

/-- Plain text of a message as it is shown. A backslash in front of a bracket that starts no tag is
dropped, names of emoji are replaced, and so are some controls. -/
def shownText (t : Text) : Text :=
  (withEmoji (Text.replaceAll "\\[".toList "[".toList t)).filter fun c => !isDroppedControl c

/-- The piece of plain text that was read in reverse, unless it is empty. -/
def plainPiece (pending : Text) : List Piece :=
  if pending.isEmpty then [] else [.plain pending.reverse]

/-- Cuts a message into pieces. The count says how many characters of a tag are still to be passed
over; then come the position and the plain text before it, in reverse. -/
def piecesFrom : Nat → (position : Nat) → (pending : Text) → Text → List Piece
  | _, _, pending, [] => plainPiece pending
  | skip + 1, position, pending, _ :: cs => piecesFrom skip (position + 1) pending cs
  | 0, position, pending, c :: cs =>
    let slashes := ((c :: cs).takeWhile (· == '\\')).length
    match tagContent? ((c :: cs).drop slashes) with
    | some content =>
      let kept := List.replicate (slashes / 2) '\\'
      let found :=
        if slashes % 2 == 1 then Piece.plain (['['] ++ content ++ [']'])
        else .tag (position + slashes) (.ofText content)
      plainPiece pending ++ (if kept.isEmpty then [] else [.plain kept]) ++
        found :: piecesFrom (slashes + content.length + 1) (position + 1) [] cs
    | none => piecesFrom 0 (position + 1) (c :: pending) cs

/-- The pieces of a message. -/
def pieces (message : Text) : List Piece :=
  piecesFrom 0 0 [] message

/-! ## Handlers -/

/-- Whether an open tag is a handler. -/
def StyleTag.isHandler (tag : StyleTag) : Bool :=
  tag.name.head? == some '@'

/-- The literal in the parameters of a handler. They may start with a name; then the literal stands
in parentheses, or is left out. -/
def handlerLiteral? (parameters : Text) : Option Text :=
  let whole := Text.strip parameters
  let rest := whole.dropWhile fun c => Text.isWord c || c == '.'
  if rest.isEmpty then none
  else if rest.head? == some '(' && rest.getLast? == some ')' && !rest.contains '\n' then some rest
  else some whole

/-- The parameters of a handler have to be a literal. -/
def checkParameters (parameters : Text) : Except Fault Unit :=
  match handlerLiteral? parameters with
  | none => .ok ()
  | some literal =>
    match Literal.problem? literal with
    | none => .ok ()
    | some (.unreadable reason) => .error (.unreadableParameters literal parameters reason)
    | some (.noLiteral reason) => .error (.badParameters parameters reason)

/-! ## Messages -/

/-- A part of a text that has a style. -/
structure Span where
  first : Nat
  last : Nat
  /-- The style, as a text. -/
  style : Text
deriving DecidableEq, Repr

/-- A message without its tags. -/
structure Message where
  text : Text
  /-- The parts of the text that have a style, ordered by where they start. -/
  spans : List Span
deriving DecidableEq, Repr

/-- A message that is being read. -/
structure Draft where
  /-- The text so far. -/
  text : Text
  /-- The tags that are open, innermost first, with the places where they were opened. Their names
  are the names of their styles. -/
  opened : List (Nat × StyleTag)
  /-- The parts that have a style, the latest first. -/
  spans : List Span
deriving DecidableEq, Repr

namespace Draft

/-- The style of a tag: its name and its parameters. -/
def styleOf (tag : StyleTag) : Text :=
  match tag.parameters with
  | none => tag.name
  | some parameters => tag.name ++ [' '] ++ parameters

/-- Ends the style of a tag that was open. -/
def addSpan (draft : Draft) (entry : Nat × StyleTag) : Draft :=
  { draft with spans := ⟨entry.1, draft.text.length, styleOf entry.2⟩ :: draft.spans }

/-- Closes a tag that was open. -/
def close (draft : Draft) (entry : Nat × StyleTag) (opened : List (Nat × StyleTag)) :
    Except Fault Draft := do
  let draft := { draft with opened := opened }
  if entry.2.isHandler then
    checkParameters (entry.2.parameters.getD [])
    return draft
  else return draft.addSpan entry

/-- Reads a tag at some position of the message. -/
def readTag (draft : Draft) (position : Nat) (tag : StyleTag) : Except Fault Draft := do
  match tag.name with
  | '/' :: closing =>
    let name := Text.strip closing
    if name.isEmpty then
      match draft.opened with
      | [] => throw (.nothingToClose position)
      | entry :: outer => draft.close entry outer
    else
      let name ← Style.nameOf name
      match draft.opened.find? fun entry => entry.2.name == name with
      | some entry =>
        draft.close entry (draft.opened.eraseP fun entry => entry.2.name == name)
      | none => throw (.unopenedTag tag.shown position)
  | name =>
    let name ← Style.nameOf name
    return { draft with opened := (draft.text.length, { tag with name := name }) :: draft.opened }

/-- Reads a piece of a message. -/
def readPiece (draft : Draft) : Piece → Except Fault Draft
  | .plain t => .ok { draft with text := draft.text ++ shownText t }
  | .tag position tag => draft.readTag position tag

/-- The message of a draft. Tags that are still open end here, the innermost first. -/
def finish (draft : Draft) : Message :=
  let all := draft.opened.foldl addSpan draft
  ⟨all.text, sortBy (fun a b => a.first ≤ b.first) all.spans⟩

end Draft

namespace Message

/-- The message that a text with tags writes. -/
def ofMarkup (t : Text) : Except Fault Message := do
  return (← (pieces t).foldlM Draft.readPiece ⟨[], [], []⟩).finish

end Message

end PortableSql.Report
