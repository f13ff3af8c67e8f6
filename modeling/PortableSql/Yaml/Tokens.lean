import PortableSql.Yaml.Block
import PortableSql.Yaml.Token

/-!
# Reading the tokens of a settings document

Tokens are read from left to right. Block collections are found from the columns in which their
entries start. A scalar, an alias or a bracketed collection may turn out to be a key when a colon
follows it on the same line; the key token is then put in front of it. Until that is settled the
token is held back, and if the text turns out to be malformed in the meantime, the tokens held
back are never handed out. `Tokens` is therefore a list of tokens and, if the text is malformed
after them, the fault.

A text may also be only a part of a document, because what follows cannot be read. Whoever comes
to its end, or needs to see what follows it, then meets that fault.
-/

namespace PortableSql.Yaml

/-- A token that may turn out to be a key. -/
structure PossibleKey where
  /-- The number of the token. -/
  number : Nat
  /-- Whether nothing but a key can stand there. -/
  required : Bool
  /-- Where the token starts. -/
  mark : Mark
deriving DecidableEq, Repr

/-- The state of reading. -/
structure TokenState where
  /-- Where the reader stands. -/
  mark : Mark
  /-- How many brackets are open; negative if too many were closed. -/
  flowLevel : Int
  /-- The tokens so far, the last one first. -/
  latest : List Token
  /-- The number of tokens so far. -/
  count : Nat
  /-- How many of the tokens have been handed out. -/
  handedOut : Nat
  /-- The column of the innermost block collection, or -1. -/
  indent : Int
  /-- The columns of the block collections around it. -/
  indents : List Int
  /-- Whether a key may start here. -/
  allowKey : Bool
  /-- The possible keys by the number of brackets around them. -/
  keys : List (Int × PossibleKey)
deriving DecidableEq, Repr

namespace TokenState

/-- The state at the start of a text. -/
def initial : TokenState where
  mark := ⟨0, 0, 0⟩
  flowLevel := 0
  latest := []
  count := 0
  handedOut := 0
  indent := -1
  indents := []
  allowKey := true
  keys := []

/-- Whether the reader is inside of brackets. -/
def inFlow (s : TokenState) : Bool :=
  s.flowLevel != 0

/-- Adds a token. -/
def push (s : TokenState) (token : Token) : TokenState :=
  { s with latest := token :: s.latest, count := s.count + 1 }

/-- Puts a token at the place of an earlier one, which then follows it. -/
def insert (s : TokenState) (place : Nat) (token : Token) : TokenState :=
  let later := s.count - place
  { s with latest := s.latest.take later ++ token :: s.latest.drop later, count := s.count + 1 }

/-- Passes over a text. -/
def pass (s : TokenState) (t : Text) : TokenState :=
  { s with mark := s.mark.advance t }

/-- Whether a possible key can no longer be one: it must be on the same line and within 1024
characters. -/
def isStale (s : TokenState) (key : PossibleKey) : Bool :=
  key.mark.line != s.mark.line || s.mark.index - key.mark.index > 1024

/-- Gives up possible keys that can no longer be keys. -/
def dropStale (s : TokenState) : Except Fault TokenState :=
  if s.keys.any fun entry => s.isStale entry.2 && entry.2.required then .error badToken
  else .ok { s with keys := s.keys.filter fun entry => !s.isStale entry.2 }

/-- Gives up the possible key of the innermost brackets. -/
def removeKey (s : TokenState) : Except Fault TokenState :=
  match s.keys.lookup s.flowLevel with
  | none => .ok s
  | some key =>
    if key.required then .error badToken
    else .ok { s with keys := s.keys.filter fun entry => entry.1 != s.flowLevel }

/-- Notes that the next token may turn out to be a key. -/
def saveKey (s : TokenState) : Except Fault TokenState :=
  let required := !s.inFlow && s.indent == (s.mark.column : Int)
  if s.allowKey then do
    let s ← s.removeKey
    return { s with keys := s.keys ++ [(s.flowLevel, ⟨s.count, required, s.mark⟩)] }
  else .ok s

/-- Ends the block collections that start beyond a column; the columns are given innermost
first. -/
def unwindTo (column : Int) : (indent : Int) → (indents : List Int) → Nat × Int × List Int
  | indent, [] => (0, indent, [])
  | indent, outer :: rest =>
    if column < indent then
      let (n, final) := unwindTo column outer rest
      (n + 1, final)
    else (0, indent, outer :: rest)

/-- Ends the block collections that start beyond a column. Inside of brackets there are none. -/
def unwind (s : TokenState) (column : Int) : TokenState :=
  if s.inFlow then s
  else
    let (n, indent, indents) := unwindTo column s.indent s.indents
    { s with
      latest := List.replicate n .blockEnd ++ s.latest
      count := s.count + n
      indent
      indents }

/-- Starts a block collection if the column is beyond that of the innermost one. The start token
is put at the given place. -/
def openBlock (s : TokenState) (column : Nat) (place : Nat) (token : Token) : TokenState :=
  if s.indent < (column : Int) then
    { s.insert place token with indent := column, indents := s.indent :: s.indents }
  else s

/-- The number of the first token that may turn out to be a key. -/
def firstKey? (s : TokenState) : Option Nat :=
  (s.keys.map fun entry => entry.2.number).min?

/-- Hands out the tokens that are settled. -/
def handOut (s : TokenState) : Except Fault TokenState :=
  if s.handedOut < s.count then do
    let s ← s.dropStale
    let settled := match s.firstKey? with
      | none => s.count
      | some n => if s.handedOut ≤ n then min n s.count else s.count
    return { s with handedOut := settled }
  else .ok s

end TokenState

/-- The state after a token, and the number of characters read. -/
abbrev Scanned := Except Fault (TokenState × Nat)

/-! ## Names, tags and directives -/

/-- Characters that may follow the name of an anchor or alias. -/
def endsAnchor (c : Option Char) : Bool :=
  isBlankOrEnd c || c.any fun d => "?:,]\x7d%@`".toList.contains d

/-- The name of an anchor or alias after its indicator. -/
def readAnchor (t : Text) : Except Fault Text :=
  let name := (t.drop 1).takeWhile isNameChar
  if (t.drop 1).isEmpty then .error unfinishedToken
  else if name.isEmpty || !endsAnchor (t.drop (name.length + 1)).head? then .error badToken
  else .ok name

/-- Characters of a tag that stand for themselves. -/
def isTagChar (c : Char) : Bool :=
  isNameChar c || "-;/?:@&=+$,_.!~*'()[]".toList.contains c

/-- The bytes of a run of percent escapes, and its length. -/
def percentBytes : Text → Except Fault (List UInt8 × Nat)
  | '%' :: a :: b :: cs =>
    match Text.hexValue? a, Text.hexValue? b with
    | some x, some y =>
      (percentBytes cs).map fun (bytes, n) => (UInt8.ofNat (x * 16 + y) :: bytes, n + 3)
    | _, _ => .error badToken
  | '%' :: _ => .error badToken
  | _ => .ok ([], 0)

/-- The rest of a tag: what it says, and its length. The count says how many characters of a run
of escapes are still to be passed over. -/
def tagFrom : Nat → Text → Except Fault (Text × Nat)
  | _, [] => .ok ([], 0)
  | skip + 1, _ :: cs => tagFrom skip cs
  | 0, c :: cs =>
    if c == '%' then
      match percentBytes (c :: cs) with
      | .error fault => .error fault
      | .ok (bytes, n) =>
        match String.fromUTF8? ⟨bytes.toArray⟩ with
        | none => .error badToken
        | some s => (tagFrom (n - 1) cs).map fun (rest, m) => (s.toList ++ rest, m + n)
    else if isTagChar c then (tagFrom 0 cs).map fun (rest, m) => (c :: rest, m + 1)
    else .ok ([], 0)

/-- A part of a tag that is not empty. -/
def readTagPart (t : Text) : Except Fault (Text × Nat) := do
  let (part, n) ← tagFrom 0 t
  if n == 0 then throw badToken else return (part, n)

/-- A tag handle: an exclamation mark, or a name between two of them. -/
def readHandle (t : Text) : Except Fault Text :=
  match t with
  | '!' :: cs =>
    if cs.head? == some ' ' then .ok ['!']
    else
      let name := cs.takeWhile isNameChar
      if (cs.drop name.length).head? == some '!' then .ok (['!'] ++ name ++ ['!'])
      else .error badToken
  | _ => .error badToken

/-- Whether a tag has a second exclamation mark before it ends. -/
def hasHandle (t : Text) : Bool :=
  (t.takeWhile fun c => !isSpaceOrEnd (some c)).contains '!'

/-- A tag: its handle if it has one, its suffix and its length. -/
def readTag (t : Text) : Except Fault (Option Text × Text × Nat) := do
  let rest := t.drop 1
  let (handle, suffix, n) ←
    if rest.head? == some '<' then do
      let (suffix, n) ← readTagPart (rest.drop 1)
      if (rest.drop (n + 1)).head? == some '>' then pure (none, suffix, n + 3)
      else throw badToken
    else if isBlankOrEnd rest.head? then pure (none, ['!'], 1)
    else if hasHandle rest then do
      let handle ← readHandle t
      let (suffix, n) ← readTagPart (t.drop handle.length)
      pure (some handle, suffix, handle.length + n)
    else do
      let (suffix, n) ← readTagPart rest
      pure (some ['!'], suffix, n + 1)
  if isSpaceOrEnd (t.drop n).head? then return (handle, suffix, n) else throw badToken

/-- A number of a version directive, and its length. -/
def readVersionNumber (t : Text) : Except Fault (Nat × Nat) :=
  let digits := t.takeWhile fun c => '0' ≤ c && c ≤ '9'
  if digits.isEmpty then .error badToken
  else .ok ((Text.readDigits? 10 digits).getD 0, digits.length)

/-- What a version directive says, and its length. -/
def readVersion (t : Text) : Except Fault (Directive × Nat) := do
  let blanks := leadingSpaces t
  let (major, m) ← readVersionNumber (t.drop blanks)
  if (t.drop (blanks + m)).head? != some '.' then throw badToken
  let (minor, n) ← readVersionNumber (t.drop (blanks + m + 1))
  let length := blanks + m + 1 + n
  if isSpaceOrEnd (t.drop length).head? then return (.version major minor, length)
  else throw badToken

/-- What a tag directive says, and its length. -/
def readTagDirective (t : Text) : Except Fault (Directive × Nat) := do
  let blanks := leadingSpaces t
  let handle ← readHandle (t.drop blanks)
  let start := blanks + handle.length
  if (t.drop start).head? != some ' ' then throw badToken
  let place := start + leadingSpaces (t.drop start)
  let (expansion, n) ← readTagPart (t.drop place)
  if isSpaceOrEnd (t.drop (place + n)).head? then
    return (.tagHandle handle expansion, place + n)
  else throw badToken

/-- A directive, and its length through the end of its line. -/
def readDirective (t : Text) : Except Fault (Directive × Nat) := do
  let name := (t.drop 1).takeWhile isNameChar
  let start := name.length + 1
  if name.isEmpty || !isSpaceOrEnd (t.drop start).head? then throw badToken
  let (directive, n) ←
    if name == "YAML".toList then readVersion (t.drop start)
    else if name == "TAG".toList then readTagDirective (t.drop start)
    else pure (.unknown, restOfLine (t.drop start))
  let rest ← ignoredLine (t.drop (start + n))
  return (directive, start + n + rest)

/-- What was read, unless it is malformed and the text ends with it. -/
def unlessCut {α : Type} (rest : Text) (endsIt : Char → Bool) (read : Except Fault α) :
    Except Fault α :=
  match read with
  | .ok a => .ok a
  | .error fault => .error (if rest.any endsIt then fault else unfinishedToken)

/-! ## One token -/

namespace TokenState

/-- Ends all block collections and gives up possible keys, in front of a document's limit. -/
def closeAll (s : TokenState) : Except Fault TokenState := do
  let s ← (s.unwind (-1)).removeKey
  return { s with allowKey := false }

/-- Reads an opening bracket. -/
def readOpen (s : TokenState) (token : Token) : Scanned := do
  let s ← s.saveKey
  return ({ s with flowLevel := s.flowLevel + 1, allowKey := true }.push token, 1)

/-- Reads a closing bracket. -/
def readClose (s : TokenState) (token : Token) : Scanned := do
  let s ← s.removeKey
  return ({ s with flowLevel := s.flowLevel - 1, allowKey := false }.push token, 1)

/-- Reads a comma. -/
def readFlowEntry (s : TokenState) : Scanned := do
  let s ← { s with allowKey := true }.removeKey
  return (s.push .flowEntry, 1)

/-- Reads the hyphen of a list item. -/
def readBlockEntry (s : TokenState) : Scanned := do
  if !s.inFlow && !s.allowKey then throw badToken
  let s := if s.inFlow then s
    else s.openBlock s.mark.column s.count .blockSequenceStart
  let s ← { s with allowKey := true }.removeKey
  return (s.push .blockEntry, 1)

/-- Reads the question mark of a key. -/
def readKey (s : TokenState) : Scanned := do
  if !s.inFlow && !s.allowKey then throw badToken
  let s := if s.inFlow then s
    else s.openBlock s.mark.column s.count .blockMappingStart
  let s ← { s with allowKey := !s.inFlow }.removeKey
  return (s.push .key, 1)

/-- Reads the colon of a value. A possible key in front of it becomes a key. -/
def readValue (s : TokenState) : Scanned :=
  match s.keys.lookup s.flowLevel with
  | some key =>
    let s := { s with keys := s.keys.filter fun entry => entry.1 != s.flowLevel }
    let s := s.insert key.number .key
    let s := if s.inFlow then s
      else s.openBlock key.mark.column key.number .blockMappingStart
    .ok ({ s with allowKey := false }.push .value, 1)
  | none => do
    if !s.inFlow && !s.allowKey then throw badToken
    let s := if s.inFlow then s
      else s.openBlock s.mark.column s.count .blockMappingStart
    let s ← { s with allowKey := !s.inFlow }.removeKey
    return (s.push .value, 1)

/-- Notes a possible key and that none can follow it directly. -/
def startKey (s : TokenState) : Except Fault TokenState := do
  let s ← s.saveKey
  return { s with allowKey := false }

/-- Reads a block scalar. -/
def readBlockScalar (s : TokenState) (folded : Bool) (t : Text) : Scanned := do
  let s ← { s with allowKey := true }.removeKey
  let (text, n) ← readBlock folded s.indent t
  return (s.push (.scalar text false), n)

/-- Reads a quoted scalar. -/
def readQuotedScalar (s : TokenState) (double : Bool) (t : Text) : Scanned := do
  let s ← s.startKey
  let (codes, n) ← readQuoted double t
  return (s.push (.ofCodes codes), n)

/-- Reads a plain scalar. A key may follow it on the next line. -/
def readPlainScalar (s : TokenState) (t : Text) : Scanned := do
  let s ← s.startKey
  let scalar := readPlain s.inFlow (s.indent + 1) s.mark t
  return ({ s with allowKey := scalar.breaksLine }.push (.scalar scalar.text true), scalar.length)

/-- Characters that start something other than a plain scalar. -/
def indicators : Text :=
  "-?:,[]\x7b\x7d#&*!|>'\"%@`".toList

/-- Whether a plain scalar starts here. -/
def startsPlain (s : TokenState) (c : Char) (cs : Text) : Bool :=
  !(isBlankOrEnd (some c) || indicators.contains c) ||
    !isBlankOrEnd cs.head? && (c == '-' || !s.inFlow && (c == '?' || c == ':'))

/-- Reads the token that starts with `c`. -/
def readToken (s : TokenState) (c : Char) (cs : Text) : Scanned := do
  let s ← s.dropStale
  let s := s.unwind s.mark.column
  let t := c :: cs
  let blankNext := isBlankOrEnd cs.head?
  if c == '%' && s.mark.column == 0 then do
    let s ← s.closeAll
    let (directive, n) ← unlessCut cs isBreak (readDirective t)
    return (s.push (.directive directive), n)
  else if s.mark.column == 0 && isMarker '-' t then
    return ((← s.closeAll).push .documentStart, 3)
  else if s.mark.column == 0 && isMarker '.' t then
    return ((← s.closeAll).push .documentEnd, 3)
  else if c == '[' then s.readOpen .flowSequenceStart
  else if c == '\x7b' then s.readOpen .flowMappingStart
  else if c == ']' then s.readClose .flowSequenceEnd
  else if c == '\x7d' then s.readClose .flowMappingEnd
  else if c == ',' then s.readFlowEntry
  else if c == '-' && blankNext then s.readBlockEntry
  else if c == '?' && (s.inFlow || blankNext) then s.readKey
  else if c == ':' && (s.inFlow || blankNext) then s.readValue
  else if c == '*' then do
    let s ← s.startKey
    let name ← readAnchor t
    return (s.push (.alias name), name.length + 1)
  else if c == '&' then do
    let s ← s.startKey
    let name ← readAnchor t
    return (s.push (.anchor name), name.length + 1)
  else if c == '!' then do
    let s ← s.startKey
    let (handle, suffix, n) ← unlessCut cs (fun c => isSpaceOrEnd (some c)) (readTag t)
    return (s.push (.tag handle suffix), n)
  else if c == '|' && !s.inFlow then s.readBlockScalar false t
  else if c == '>' && !s.inFlow then s.readBlockScalar true t
  else if c == '\x27' then s.readQuotedScalar false t
  else if c == '\x22' then s.readQuotedScalar true t
  else if s.startsPlain c cs then s.readPlainScalar t
  else throw badToken

/-- Reads what starts with `c`: a blank, a comment, a line end or a token. -/
def readPiece (s : TokenState) (c : Char) (cs : Text) : Scanned :=
  if c == ' ' || (c == '\ufeff' && s.mark.index == 0) then .ok (s.pass [c], 1)
  else if c == '#' then
    let n := restOfLine (c :: cs)
    .ok (s.pass ((c :: cs).take n), n)
  else if isBreak c then
    .ok ({ s with allowKey := s.allowKey || !s.inFlow }.pass [c], 1)
  else do
    let (s, n) ← s.readToken c cs
    let s ← (s.pass ((c :: cs).take n)).handOut
    return (s, n)

/-- The state at the end of the text. -/
def finish (s : TokenState) : Except Fault TokenState := do
  let s ← s.dropStale
  let s ← (s.unwind (-1)).removeKey
  return s.push .streamEnd

end TokenState

/-- The tokens of a text: those that are handed out, and what is wrong after them. -/
structure Tokens where
  /-- The tokens. -/
  ready : List Token
  /-- What is wrong after them. -/
  fault : Option Fault
deriving DecidableEq, Repr

/-- The tokens that were handed out before a fault. -/
def Tokens.stopped (s : TokenState) (fault : Fault) : Tokens :=
  ⟨(s.latest.drop (s.count - s.handedOut)).reverse, some fault⟩

/-- What is wrong with a token: a token that the text ends inside of may go on beyond a cut. -/
def atCut (cut : Option Fault) (fault : Fault) : Fault :=
  if fault == unfinishedToken then cut.getD fault else fault

/-- Reads the tokens from a state on. The first argument says why the text is cut off, if it is,
and the count how many characters of a piece are still to be passed over. -/
def tokensFrom (cut : Option Fault) : Nat → TokenState → Text → Tokens
  | _, s, [] =>
    match cut with
    | some fault => .stopped s fault
    | none =>
      match s.finish with
      | .ok s => ⟨s.latest.reverse, none⟩
      | .error fault => .stopped s fault
  | skip + 1, s, _ :: cs => tokensFrom cut skip s cs
  | 0, s, c :: cs =>
    match s.readPiece c cs with
    | .error fault => .stopped s (atCut cut fault)
    | .ok (next, n) =>
      match cut with
      | none => tokensFrom cut (n - 1) next cs
      | some fault =>
        if (cs.drop (n - 1)).isEmpty then .stopped s fault else tokensFrom cut (n - 1) next cs

/-- The tokens of a text, which may be cut off by a fault. -/
def tokens (cut : Option Fault) (t : Text) : Tokens :=
  tokensFrom cut 0 .initial t

end PortableSql.Yaml
