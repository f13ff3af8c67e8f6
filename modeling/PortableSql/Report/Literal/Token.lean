import PortableSql.Report.Literal.Quotation
import PortableSql.Text.Quoted
import PortableSql.Text.Word

/-!
# Tokens of a literal

A literal is cut into names, numbers, quotations and marks. Brackets are matched here: a token knows
how many of them are open after it. What is wrong with a token is told by a message, which is a
token itself; no others follow it. A bracket that is never closed, and a backslash that no line feed
follows, are tokens at the end as well.
-/

namespace PortableSql.Report.Literal

/-- A token. -/
inductive Token
  /-- A name or a keyword. -/
  | name (t : Text)
  /-- A number, and how many digits it has if it is whole and decimal. -/
  | number (imaginary : Bool) (digits : Nat)
  | quotation (q : Quotation)
  | mark (t : Text)
  | lineEnd
  /-- Blanks at the start of a line other than the first. -/
  | indent
  /-- The end of a text in which a bracket is still open, and the line on which it was opened. -/
  | unclosed (bracket : Char) (line : Nat)
  /-- A backslash that no line feed follows, and the innermost open bracket with its line. -/
  | backslash (bracket : Option (Char × Nat))
  /-- What is no token. -/
  | bad (message : Text)
  | finish
deriving DecidableEq, Repr

/-- A token in its place. -/
structure Item where
  /-- The token. -/
  token : Token
  /-- The number of brackets that are open after it. -/
  level : Nat
  /-- The line on which it starts. -/
  line : Nat
deriving DecidableEq, Repr

/-- Characters that may go on a name, or that verification of names has to look at. -/
def goesOn (c : Char) : Bool :=
  c.isAlphanum || c == '_' || isForeign c

/-! ## Numbers -/

/-- What is wrong with a number of some kind. -/
def badNumber (kind : String) : Text :=
  "invalid ".toList ++ kind.toList ++ " literal".toList

/-- Passes over digits, between which single underscores may stand. What follows an underscore and
is no digit is a problem. -/
def afterDigits (isDigit : Char → Bool) (problem : Text → Text) : Text → Except Text Text
  | [] => .ok []
  | '_' :: cs =>
    if Text.headIs isDigit cs then afterDigits isDigit problem cs else .error (problem cs)
  | c :: cs => if isDigit c then afterDigits isDigit problem cs else .ok (c :: cs)

/-- Passes over decimal digits. -/
def afterDecimals (t : Text) : Except Text Text :=
  afterDigits Text.isDecimal (fun _ => badNumber "decimal") t

/-- Keywords that may follow a number without a blank. -/
def followers : List String :=
  ["and", "else", "for", "or", "not"]

/-- Starts of names that may follow a number without a blank. -/
def followingStarts : List String :=
  ["if", "in", "is"]

/-- A number must not run into a name. -/
def endOfNumber (kind : String) (rest : Text) : Except Text Text :=
  if followers.any fun word => word.toList == rest.takeWhile goesOn then .ok rest
  else if followingStarts.any fun word => word.toList.isPrefixOf rest then .ok rest
  else if Text.headIs (fun c => goesOn c && !isForeign c) rest then .error (badNumber kind)
  else .ok rest

/-- The rest of a number with a base mark, which has been passed over. -/
def afterBase (kind : String) (base : Nat) (t : Text) : Except Text Text := do
  let isDigit := fun c => (Text.hexValue? c).any (· < base)
  let digits := if t.head? == some '_' then t.drop 1 else t
  let problem := fun (rest : Text) =>
    match rest.head?.filter Text.isDecimal with
    | some c =>
      "invalid digit '".toList ++ [c] ++ "' in ".toList ++ kind.toList ++ " literal".toList
    | none => badNumber kind
  if Text.headIs isDigit digits then
    let rest ← afterDigits isDigit problem digits
    if Text.headIs Text.isDecimal rest then throw (problem rest)
    endOfNumber kind rest
  else throw (problem digits)

/-- The rest of a number from its exponent on; tells whether it is imaginary. -/
def afterExponent (t : Text) : Except Text (Bool × Text) := do
  let rest ← match t with
    | e :: cs =>
      if e == 'e' || e == 'E' then
        let signed := cs.head? == some '+' || cs.head? == some '-'
        let digits := if signed then cs.drop 1 else cs
        if Text.headIs Text.isDecimal digits then
          afterDecimals digits
        else if signed then throw (badNumber "decimal")
        else return (false, ← endOfNumber "decimal" t)
      else pure t
    | [] => pure t
  match rest with
  | 'j' :: cs => return (true, ← endOfNumber "imaginary" cs)
  | 'J' :: cs => return (true, ← endOfNumber "imaginary" cs)
  | _ => return (false, ← endOfNumber "decimal" rest)

/-- The rest of a number from its point on; tells whether it is imaginary. -/
def afterPoint (t : Text) : Except Text (Bool × Text) := do
  match t with
  | '.' :: cs =>
    if Text.headIs Text.isDecimal cs then
      afterExponent (← afterDecimals cs)
    else afterExponent cs
  | _ => afterExponent t

/-- What is wrong with a whole number that starts with a zero. -/
def leadingZero : Text :=
  ("leading zeros in decimal integer literals are not permitted; " ++
    "use an 0o prefix for octal integers").toList

/-- Reads a number; tells whether it is imaginary. -/
def readNumber (t : Text) : Except Text (Bool × Text) := do
  match t with
  | '0' :: mark :: cs =>
    if mark == 'x' || mark == 'X' then return (false, ← afterBase "hexadecimal" 16 cs)
    if mark == 'o' || mark == 'O' then return (false, ← afterBase "octal" 8 cs)
    if mark == 'b' || mark == 'B' then return (false, ← afterBase "binary" 2 cs)
    let rest ← afterDecimals (mark :: cs)
    let digits := (mark :: cs).take (cs.length + 1 - rest.length)
    let goesOn := match rest with
      | c :: _ => ['.', 'e', 'E', 'j', 'J'].contains c
      | [] => false
    if digits.any (fun c => c != '0' && c != '_') && !goesOn then throw leadingZero
    afterPoint rest
  | '.' :: _ => afterPoint t
  | _ => afterPoint (← afterDecimals t)

/-- How many digits a number has if it is whole and decimal. A zero has none. -/
def wholeDigits (spelled : Text) : Nat :=
  if spelled.head? != some '0' && spelled.all (fun c => Text.isDecimal c || c == '_') then
    (spelled.filter Text.isDecimal).length
  else 0

/-! ## Quotations and names -/

/-- The letters in front of a quotation, in small letters. -/
def quotationLetters : List String :=
  ["", "b", "u", "r", "f", "br", "rb", "fr", "rf"]

/-- The line feeds of a text. -/
def lineFeeds (t : Text) : Nat :=
  (t.filter (· == '\n')).length

/-- The content of a quotation and what follows it, or the number of line feeds in a quotation that
does not end. The count says how many quotes end it; a line feed ends a quotation too early, unless
there are three. A backslash takes the next character with it. -/
def readQuotation (quote : Char) (count : Nat) : (content : Text) → Text → Except Nat (Text × Text)
  | content, [] => .error (lineFeeds content)
  | content, '\\' :: c :: cs => readQuotation quote count (c :: '\\' :: content) cs
  | content, c :: cs =>
    if c == quote && (List.replicate count quote).isPrefixOf (c :: cs) then
      .ok (content.reverse, (c :: cs).drop count)
    else if c == '\n' && count == 1 then .error (lineFeeds content)
    else readQuotation quote count (c :: content) cs

/-- The letters and the quotes that start a quotation here, and what follows. -/
def quotationStart? (t : Text) : Option (Text × Char × Nat × Text) :=
  let letters := (t.takeWhile Char.isAlpha).map Char.toLower
  let rest := t.drop letters.length
  match rest with
  | quote :: cs =>
    if (quote == '\x27' || quote == '\x22') &&
        quotationLetters.any (fun known => known.toList == letters) then
      let count := if [quote, quote].isPrefixOf cs then 3 else 1
      some (letters, quote, count, rest.drop count)
    else none
  | [] => none

/-- A code with at least four hexadecimal digits in capital letters. -/
def shownCode (c : Char) : Text :=
  (Text.hexDigits (max 4 (Nat.toDigits 16 c.toNat).length) c.toNat).map Char.toUpper

/-- What is wrong with a character that no name may hold. -/
def badCharacter (c : Char) : Text :=
  if CodeRange.covers Text.hiddenRanges c.toNat then
    "invalid non-printable character U+".toList ++ shownCode c
  else "invalid character '".toList ++ [c] ++ "' (U+".toList ++ shownCode c ++ [')']

/-- The first character of a text that cannot stand there in a name. -/
def misplaced? (t : Text) : Option Char :=
  match t with
  | [] => none
  | c :: cs =>
    if Text.isIdentifierStart c then cs.find? fun d => !Text.isIdentifierPart d else some c

/-! ## Marks -/

/-- Marks of two and three characters; the longer ones come first. -/
def longMarks : List String :=
  ["**=", "//=", ">>=", "<<=", "...", "!=", "%=", "&=", "**", "*=", "+=", "-=", "->", "//", "/=",
    ":=", "<<", "<=", "<>", "==", ">=", ">>", "@=", "^=", "|="]

/-- The mark at the start of a text. -/
def readMark (t : Text) : Text :=
  ((longMarks.find? fun mark => mark.toList.isPrefixOf t).map String.toList).getD (t.take 1)

/-- The bracket that closes another one. -/
def closing? (c : Char) : Option Char :=
  match c with
  | '(' => some ')'
  | '[' => some ']'
  | '\x7b' => some '\x7d'
  | _ => none

/-- The largest number of brackets that are open at a time. -/
def bracketLimit : Nat :=
  200

/-- The brackets that are open, innermost first, with the lines on which they were opened. -/
abbrev Brackets := List (Char × Nat)

/-- The brackets that are open after a mark on some line. -/
def afterMark (line : Nat) (brackets : Brackets) (mark : Char) : Except Text Brackets :=
  if (closing? mark).isSome then
    if bracketLimit ≤ brackets.length then .error "too many nested parentheses".toList
    else .ok ((mark, line) :: brackets)
  else if [')', ']', '\x7d'].contains mark then
    match brackets with
    | [] => .error ("unmatched '".toList ++ [mark, '\x27'])
    | (opened, before) :: rest =>
      if closing? opened == some mark then .ok rest
      else .error ("closing parenthesis '".toList ++ [mark] ++
        "' does not match opening parenthesis '".toList ++ [opened, '\x27'] ++
        (if before == line then [] else " on line ".toList ++ Text.ofNat before))
  else .ok brackets

/-! ## Texts -/

/-- The start of a line outside of brackets. -/
structure LineStart where
  /-- The column up to which the line is blank. -/
  column : Nat
  /-- The number of line feeds that were passed over. -/
  lines : Nat
  /-- The line from there on. -/
  rest : Text

/-- The start of a line, where a backslash joins it to the next one. The column of the first line
that is joined so counts, unless it is the first column. -/
def lineStart : (column joined lines : Nat) → Text → LineStart
  | column, joined, lines, ' ' :: cs => lineStart (column + 1) joined lines cs
  | column, joined, lines, '\t' :: cs => lineStart ((column / 8 + 1) * 8) joined lines cs
  | _, joined, lines, '\x0c' :: cs => lineStart 0 joined lines cs
  | column, joined, lines, '\\' :: '\n' :: cs =>
    lineStart column (if joined == 0 then column else joined) (lines + 1) cs
  | column, joined, lines, rest => ⟨if joined == 0 then column else joined, lines, rest⟩

/-- Whether a line is indented: it has content, and blanks in front of it. -/
def LineStart.isIndented (start : LineStart) : Bool :=
  start.column != 0 && Text.headIs (fun c => !(['\n', '#', '\\'].contains c)) start.rest

/-- The tokens of a text from some line on. Each step takes a character at least, so the length of
the text is fuel enough. -/
def tokensFrom : (fuel line : Nat) → Brackets → Text → List Item
  | _, line, brackets, [] =>
    match brackets with
    | [] => []
    | (bracket, opened) :: _ => [⟨.unclosed bracket opened, brackets.length, line⟩]
  | 0, _, _, _ => []
  | fuel + 1, line, brackets, c :: cs =>
    let level := brackets.length
    if c == ' ' || c == '\t' || c == '\x0c' then tokensFrom fuel line brackets cs
    else if c == '#' then tokensFrom fuel line brackets (cs.dropWhile (· != '\n'))
    else if c == '\n' then
      if !brackets.isEmpty then tokensFrom fuel (line + 1) brackets cs
      else
        let start := lineStart 0 0 0 cs
        let next := line + 1 + start.lines
        let rest := tokensFrom fuel next [] start.rest
        ⟨.lineEnd, 0, line⟩ :: (if start.isIndented then ⟨.indent, 0, next⟩ :: rest else rest)
    else if c == '\\' then
      match cs with
      | '\n' :: rest => tokensFrom fuel (line + 1) brackets rest
      | _ => [⟨.backslash brackets.head?, level, line⟩]
    else if Text.isDecimal c || c == '.' && Text.headIs Text.isDecimal cs then
      match readNumber (c :: cs) with
      | .ok (imaginary, rest) =>
        let spelled := (c :: cs).take (cs.length + 1 - rest.length)
        ⟨.number imaginary (wholeDigits spelled), level, line⟩ ::
          tokensFrom fuel line brackets rest
      | .error message => [⟨.bad message, level, line⟩]
    else match quotationStart? (c :: cs) with
      | some (letters, quote, count, body) =>
        match readQuotation quote count [] body with
        | .ok (content, rest) =>
          ⟨.quotation (.of letters content), level, line⟩ ::
            tokensFrom fuel (line + lineFeeds content) brackets rest
        | .error passed =>
          let kind := if count == 3 then "triple-quoted string" else "string"
          [⟨.bad ("unterminated ".toList ++ kind.toList ++ " literal (detected at line ".toList ++
            Text.ofNat (line + passed) ++ [')']), level, line⟩]
      | none =>
        if goesOn c then
          let name := (c :: cs).takeWhile goesOn
          match misplaced? name with
          | some d => [⟨.bad (badCharacter d), level, line⟩]
          | none => ⟨.name name, level, line⟩ ::
              tokensFrom fuel line brackets ((c :: cs).drop name.length)
        else if CodeRange.covers Text.hiddenRanges c.toNat then
          [⟨.bad (badCharacter c), level, line⟩]
        else
          let mark := readMark (c :: cs)
          match if mark.length == 1 then afterMark line brackets c else .ok brackets with
          | .ok brackets => ⟨.mark mark, brackets.length, line⟩ ::
              tokensFrom fuel line brackets ((c :: cs).drop mark.length)
          | .error message => [⟨.bad message, level, line⟩]

/-- The tokens of a text. Empty lines at its start do not count. -/
def tokens (t : Text) : List Item :=
  let start := lineStart 0 0 0 t
  let rest := tokensFrom (t.length + 1) (start.lines + 1) [] start.rest
  if start.isIndented then ⟨.indent, 0, start.lines + 1⟩ :: rest
  else rest.dropWhile fun item => item.token == .lineEnd

end PortableSql.Report.Literal
