import PortableSql.Fault
import PortableSql.Yaml.Plain

/-!
# Quoted scalars

A quoted scalar may go on over several lines, which are folded as those of a plain scalar are.
Between single quotes only the quote itself is special, and it is written twice. Between double
quotes a backslash starts an escape. A document separator may not stand inside of quotes.

An escape may give a code that stands for half of a character, so what is read are codes.
-/

namespace PortableSql.Yaml

/-- A token that cannot be read. -/
def badToken : Fault :=
  .document .token

/-- A token that the text ends inside of. -/
def unfinishedToken : Fault :=
  .document .unfinished

/-- Escapes of one character. -/
def simpleEscapes : List (Char × Char) :=
  [('0', '\x00'), ('a', '\x07'), ('b', '\x08'), ('t', '\t'), ('\t', '\t'), ('n', '\n'),
    ('v', '\x0b'), ('f', '\x0c'), ('r', '\r'), ('e', '\x1b'), (' ', ' '), ('\x22', '\x22'),
    ('\\', '\\'), ('/', '/'), ('N', '\x85'), ('_', '\xa0'), ('L', '\u2028'), ('P', '\u2029')]

/-- The number of digits of an escape by code. -/
def escapeWidth? (c : Char) : Option Nat :=
  if c == 'x' then some 2 else if c == 'u' then some 4 else if c == 'U' then some 8 else none

/-- The line ends and blanks at the start of a line inside quotes: what the line ends stand for,
and their length. -/
def quotedBreaks (atLineStart : Bool) : Text → Except Fault (Text × Nat)
  | [] => .ok ([], 0)
  | c :: cs =>
    if atLineStart && isSeparator (c :: cs) then
      .error (if (cs.drop 2).isEmpty then unfinishedToken else badToken)
    else if c == ' ' || c == '\t' then
      (quotedBreaks false cs).map fun (breaks, n) => (breaks, n + 1)
    else if isBreak c then
      (quotedBreaks true cs).map fun (breaks, n) => (breakText c ++ breaks, n + 1)
    else .ok ([], 0)

/-- What blanks and line ends inside quotes become, and their length. -/
def quotedGap (t : Text) : Except Fault (Text × Nat) :=
  let blanks := (t.takeWhile fun c => c == ' ' || c == '\t').length
  match t.drop blanks with
  | [] => .error unfinishedToken
  | c :: cs =>
    if isBreak c then
      (quotedBreaks true cs).map fun (breaks, n) => (foldBreak c breaks, blanks + 1 + n)
    else .ok (t.take blanks, blanks)

/-- The codes that an escape between double quotes becomes, and its length after the backslash. -/
def quotedEscape (t : Text) : Except Fault (List Nat × Nat) :=
  match t with
  | [] => .error unfinishedToken
  | c :: cs =>
    match simpleEscapes.lookup c with
    | some image => .ok ([image.toNat], 1)
    | none =>
      match escapeWidth? c with
      | some width =>
        let digits := cs.take width
        match Text.readDigits? 16 digits with
        | none => .error badToken
        | some code =>
          if digits.length < width then .error unfinishedToken
          else if code < 0x110000 then .ok ([code], width + 1)
          else if code < 0x80000000 then
            .error (.malformed "chr() arg not in range(0x110000)".toList)
          else .error .hugeCode
      | none =>
        if isBreak c then
          (quotedBreaks true cs).map fun (breaks, n) => (breaks.map Char.toNat, n + 1)
        else .error badToken

/-- Reads a quoted scalar from after its opening quote: its codes, and its length with the closing
quote. The count says how many characters of a piece are still to be passed over. -/
def quotedFrom (double : Bool) : Nat → Text → Except Fault (List Nat × Nat)
  | _, [] => .error unfinishedToken
  | skip + 1, _ :: cs => quotedFrom double skip cs
  | 0, c :: cs =>
    let go (piece : List Nat) (length : Nat) : Except Fault (List Nat × Nat) :=
      (quotedFrom double (length - 1) cs).map fun (rest, n) => (piece ++ rest, n + length)
    if c == (if double then '\x22' else '\x27') then
      if !double && cs.head? == some '\x27' then go ['\x27'.toNat] 2 else .ok ([], 1)
    else if double && c == '\\' then
      match quotedEscape cs with
      | .ok (piece, n) => go piece (n + 1)
      | .error fault => .error fault
    else if c == ' ' || c == '\t' || isBreak c then
      match quotedGap (c :: cs) with
      | .ok (piece, n) => go (piece.map Char.toNat) n
      | .error fault => .error fault
    else go [c.toNat] 1

/-- The codes of the quoted scalar that starts here with its opening quote. -/
def readQuoted (double : Bool) (t : Text) : Except Fault (List Nat × Nat) :=
  (quotedFrom double 0 (t.drop 1)).map fun (codes, n) => (codes, n + 1)

end PortableSql.Yaml
