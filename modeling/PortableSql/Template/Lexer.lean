import PortableSql.Template.Token
import PortableSql.Text.Blank
import PortableSql.Text.Digit
import PortableSql.Text.Escape
import PortableSql.Text.Word

/-!
# Reading the tokens of a template

A template is read from left to right in one of four modes: in text, in a comment, in a raw block
or in a tag. At every place the mode says which piece comes next and how many characters it takes.
`lex?` gives the tokens, or nothing if the template is malformed: a comment or raw block without
an end, a closing bracket that closes nothing, a name that is no identifier, a string with an
invalid escape, a numeral out of bounds or a character that no tag may hold.

A tag that is still open at the end of the template is no error, nor are brackets left open in it.
-/

namespace PortableSql.Template

open Text

/-! ## Delimiters -/

/-- The number of characters of `pattern`, if the text starts with it. -/
def literal? (pattern : String) (t : Text) : Option Nat :=
  if pattern.toList.isPrefixOf t then some pattern.length else none

/-- The number of characters of `pattern` and of the blanks after it. -/
def literalThenBlanks? (pattern : String) (t : Text) : Option Nat :=
  (literal? pattern t).map fun n => n + ((t.drop n).takeWhile isBlank).length

/-- The delimiter `{%` with its optional sign; returns the sign and the length. -/
def signed? (delimiter : String) (t : Text) : Option (Option Char × Nat) :=
  (literal? delimiter t).map fun n =>
    match t.drop n with
    | '-' :: _ => (some '-', n + 1)
    | '+' :: _ => (some '+', n + 1)
    | _ => (none, n)

/-- The end of a statement. -/
def blockEnd? (t : Text) : Option Nat :=
  literal? "+%\x7d" t <|> literalThenBlanks? "-%\x7d" t <|> literal? "%\x7d" t

/-- The end of an expression. -/
def variableEnd? (t : Text) : Option Nat :=
  literalThenBlanks? "-\x7d\x7d" t <|> literal? "\x7d\x7d" t

/-- The end of a comment. -/
def commentEnd? (t : Text) : Option Nat :=
  literal? "+#\x7d" t <|> literalThenBlanks? "-#\x7d" t <|> literal? "#\x7d" t

/-- A statement that consists of one keyword, up to its end; returns the sign and the length. -/
def keywordTag? (keyword : String) (ending : Text → Option Nat) (t : Text) :
    Option (Option Char × Nat) := do
  let (sign, opened) ← signed? "\x7b%" t
  let lead := opened + ((t.drop opened).takeWhile isBlank).length
  let word ← literal? keyword (t.drop lead)
  let trail := lead + word + ((t.drop (lead + word)).takeWhile isBlank).length
  let closed ← ending (t.drop trail)
  return (sign, trail + closed)

/-- The statement that starts a raw block. It has no end with a plus sign. -/
def rawBegin? (t : Text) : Option (Option Char × Nat) :=
  keywordTag? "raw" (fun u => literalThenBlanks? "-%\x7d" u <|> literal? "%\x7d" u) t

/-- The statement that ends a raw block. -/
def rawEnd? (t : Text) : Option (Option Char × Nat) :=
  keywordTag? "endraw" blockEnd? t

/-! ## Symbols inside a tag -/

/-- The length of a run of digits in which single underscores may separate groups. -/
def digitGroups (t : Text) : Nat :=
  let first := (t.takeWhile isDigit).length
  if first == 0 then 0 else go first 0 (t.drop first)
where
  /-- Takes up further groups. The count says how many characters are still to be passed over. -/
  go (length : Nat) : Nat → Text → Nat
    | _, [] => length
    | skip + 1, _ :: cs => go length skip cs
    | 0, c :: cs =>
      let group := (cs.takeWhile isDigit).length
      if c == '_' && group != 0 then go (length + group + 1) group cs else length

/-- The length of an exponent. -/
def exponent? (t : Text) : Option Nat :=
  match t with
  | e :: cs =>
    if e == 'e' || e == 'E' then
      let sign := match cs with
        | '+' :: _ => 1
        | '-' :: _ => 1
        | _ => 0
      let digits := digitGroups (cs.drop sign)
      if digits == 0 then none else some (1 + sign + digits)
    else none
  | [] => none

/-- The length of a fraction. -/
def fraction? (t : Text) : Option Nat :=
  match t with
  | '.' :: cs =>
    let digits := digitGroups cs
    if digits == 0 then none else some (1 + digits)
  | _ => none

/-- The length of a numeral with a fraction, an exponent or both. -/
def float? (t : Text) : Option Nat :=
  let whole := digitGroups t
  if whole == 0 then none
  else
    let rest := t.drop whole
    match fraction? rest with
    | some part => some (whole + part + (exponent? (rest.drop part)).getD 0)
    | none => (exponent? rest).map (whole + ·)

/-- The length of a run of digits that satisfy `digit`, each with an underscore in front of it or
not. -/
def spacedDigits (digit : Char → Bool) : Text → Nat
  | '_' :: c :: cs => if digit c then spacedDigits digit cs + 2 else 0
  | c :: cs => if digit c then spacedDigits digit cs + 1 else 0
  | [] => 0

/-- The length of digits after a zero and one of two marks. -/
def radix? (lower upper : Char) (digit : Char → Bool) (t : Text) : Option Nat :=
  match t with
  | '0' :: mark :: cs =>
    if mark == lower || mark == upper then
      let digits := spacedDigits digit cs
      if digits == 0 then none else some (digits + 2)
    else none
  | _ => none

/-- The length of a whole numeral: binary, octal, hexadecimal, decimal or zero. -/
def integer? (t : Text) : Option Nat :=
  radix? 'b' 'B' (fun c => c == '0' || c == '1') t <|>
  radix? 'o' 'O' (fun c => (octalValue? c).isSome) t <|>
  radix? 'x' 'X' (fun c => isDigit c || (hexValue? c).isSome) t <|>
  match t with
  | c :: cs =>
    if '1' ≤ c && c ≤ '9' then some (spacedDigits isDigit cs + 1)
    else if c == '0' then some (spacedDigits (· == '0') cs + 1)
    else none
  | [] => none

/-- A decimal numeral has at most this many digits. -/
def maxDecimalDigits : Nat :=
  4300

/-- Decimal numerals with too many digits cannot be read. -/
def integerReadable (numeral : Text) : Bool :=
  match numeral with
  | '0' :: mark :: _ => mark.isAlpha || (numeral.filter (· != '_')).length ≤ maxDecimalDigits
  | _ => (numeral.filter (· != '_')).length ≤ maxDecimalDigits

/-- The length of a string literal from after its opening quote through its closing one. -/
def stringTail? (quote : Char) : Text → Option Nat
  | '\\' :: _ :: cs => (stringTail? quote cs).map (· + 2)
  | c :: cs => if c == quote then some 1 else
    if c == '\\' then none else (stringTail? quote cs).map (· + 1)
  | [] => none

/-- The length of a string literal. -/
def string? (t : Text) : Option Nat :=
  match t with
  | c :: cs => if c == '\x27' || c == '\x22' then (stringTail? c cs).map (· + 1) else none
  | [] => none

/-- The operators of two characters. -/
def longOperators : List String :=
  ["//", "**", "==", "!=", ">=", "<="]

/-- The operators of one character. -/
def shortOperators : Text :=
  "+-/*%~[]()\x7b\x7d><=.:|,;".toList

/-- The length of an operator. -/
def operator? (t : Text) : Option Nat :=
  if longOperators.any fun op => op.toList.isPrefixOf t then some 2
  else match t with
    | c :: _ => if shortOperators.contains c then some 1 else none
    | [] => none

/-- The bracket that closes an opening one. -/
def closing? (c : Char) : Option Char :=
  if c == '(' then some ')' else if c == '[' then some ']'
  else if c == '\x7b' then some '\x7d' else none

/-- The brackets that an operator leaves open; nothing if it closes the wrong one. -/
def balance? (expected : Text) (operator : Text) : Option Text :=
  match operator with
  | [c] =>
    match closing? c with
    | some closer => some (closer :: expected)
    | none =>
      if c == ')' || c == ']' || c == '\x7d' then
        match expected with
        | [] => none
        | e :: rest => if e == c then some rest else none
      else some expected
  | _ => some expected

/-! ## The modes -/

/-- The two kinds of tags that hold symbols. -/
inductive TagKind
  | expression
  | statement
deriving DecidableEq, Repr

/-- The token kind of a tag's opening delimiter. -/
def TagKind.opener : TagKind → TokenKind
  | expression => .variableBegin
  | statement => .blockBegin

/-- The token kind of a tag's closing delimiter. -/
def TagKind.closer : TagKind → TokenKind
  | expression => .variableEnd
  | statement => .blockEnd

/-- The length of a tag's closing delimiter. -/
def TagKind.end? : TagKind → Text → Option Nat
  | expression => variableEnd?
  | statement => blockEnd?

/-- Where in a template the reader stands. -/
inductive Mode
  /-- In text; holds the text read so far, in reverse. -/
  | text (pending : Text)
  /-- In a comment; holds whether the comment has a character yet. -/
  | comment (begun : Bool)
  /-- In a raw block; holds its text so far, in reverse, and whether it has a character yet. -/
  | raw (pending : Text) (begun : Bool)
  /-- In a tag; holds the closing brackets to come and whether the last symbol is a point. -/
  | tag (kind : TagKind) (expected : Text) (afterPoint : Bool)
deriving DecidableEq, Repr

/-- What follows a step: the tokens found, the length of the piece that was read and the mode
after it. -/
structure Step where
  /-- The tokens found. -/
  tokens : List Token
  /-- The number of characters read. -/
  length : Nat
  /-- The mode after the piece. -/
  mode : Mode
deriving DecidableEq, Repr

/-- The token of the text in front of a tag, if there is any. A minus sign in the tag strips the
blanks at the end of the text. -/
def dataTokens (pending : Text) (sign : Option Char) : List Token :=
  let chars := if sign == some '-' then (pending.dropWhile isBlank).reverse else pending.reverse
  if chars.isEmpty then [] else [.ofText .data chars]

/-- A tag, comment or raw block that starts here, after the given text. -/
def opening? (pending : Text) (t : Text) : Option Step :=
  match rawBegin? t with
  | some (sign, n) => some ⟨dataTokens pending sign, n, .raw [] false⟩
  | none =>
    match signed? "\x7b\x7b" t with
    | some (sign, n) =>
      some ⟨dataTokens pending sign ++ [.ofText .variableBegin (t.take n)], n,
        .tag .expression [] false⟩
    | none =>
      match signed? "\x7b%" t with
      | some (sign, n) =>
        some ⟨dataTokens pending sign ++ [.ofText .blockBegin (t.take n)], n,
          .tag .statement [] false⟩
      | none =>
        match signed? "\x7b#" t with
        | some (sign, n) => some ⟨dataTokens pending sign, n, .comment false⟩
        | none => none

/-- The symbol that stands here in a tag. -/
def symbol? (kind : TagKind) (expected : Text) (afterPoint : Bool) (t : Text) : Option Step :=
  let blanks := (t.takeWhile isBlank).length
  if blanks != 0 then some ⟨[], blanks, .tag kind expected false⟩
  else
    match if afterPoint then none else float? t with
    | some n =>
      if (t.take n).all fun c => c.toNat < 0x80 then
        some ⟨[⟨.float, .unmeasured .float⟩], n, .tag kind expected false⟩
      else none
    | none =>
      match integer? t with
      | some n =>
        if integerReadable (t.take n) then
          some ⟨[⟨.integer, .unmeasured .integer⟩], n, .tag kind expected false⟩
        else none
      | none =>
        let name := t.takeWhile isNameChar
        if !name.isEmpty then
          if isIdentifier name then
            some ⟨[.ofText .name name], name.length, .tag kind expected false⟩
          else none
        else
          match string? t with
          | some n =>
            (unescape? ((t.take (n - 1)).drop 1)).map fun inside =>
              ⟨[.ofText .string inside], n, .tag kind expected false⟩
          | none =>
            match operator? t with
            | some n =>
              (balance? expected (t.take n)).map fun rest =>
                ⟨[.ofText .operator (t.take n)], n, .tag kind rest (t.take n == ['.'])⟩
            | none => none

/-- What stands here in a tag: its end, unless a bracket is open, or a symbol. -/
def inTag? (kind : TagKind) (expected : Text) (afterPoint : Bool) (t : Text) : Option Step :=
  match if expected.isEmpty then kind.end? t else none with
  | some n => some ⟨[.ofText kind.closer (t.take n)], n, .text []⟩
  | none => symbol? kind expected afterPoint t

/-- The piece that starts at a text with first character `c` and rest `cs`. -/
def step? (mode : Mode) (c : Char) (cs : Text) : Option Step :=
  match mode with
  | .text pending => some ((opening? pending (c :: cs)).getD ⟨[], 1, .text (c :: pending)⟩)
  | .comment _ =>
    match commentEnd? (c :: cs) with
    | some n => some ⟨[], n, .text []⟩
    | none => some ⟨[], 1, .comment true⟩
  | .raw pending _ =>
    match rawEnd? (c :: cs) with
    | some (sign, n) => some ⟨dataTokens pending sign, n, .text []⟩
    | none => some ⟨[], 1, .raw (c :: pending) true⟩
  | .tag kind expected afterPoint => inTag? kind expected afterPoint (c :: cs)

/-- What is left to say at the end of a template. -/
def finish? : Mode → Option (List Token)
  | .text pending => some (dataTokens pending none)
  | .comment begun => if begun then none else some []
  | .raw _ begun => if begun then none else some []
  | .tag _ _ _ => some []

/-- Reads the tokens from a mode on. The count says how many characters of a piece are still to be
passed over. -/
def lexFrom : Nat → Mode → Text → Option (List Token)
  | _, mode, [] => finish? mode
  | skip + 1, mode, _ :: cs => lexFrom skip mode cs
  | 0, mode, c :: cs =>
    match step? mode c cs with
    | none => none
    | some step => (lexFrom (step.length - 1) step.mode cs).map (step.tokens ++ ·)

/-- A template as it is read: line ends are line feeds, and one at the very end is dropped. -/
def source (template : Text) : Text :=
  let lines := normalizeNewlines template
  if lines.getLast? == some '\n' then lines.dropLast else lines

/-- The tokens of a template, or nothing if it is malformed. -/
def lex? (template : Text) : Option (List Token) :=
  lexFrom 0 (.text []) (source template)

end PortableSql.Template
