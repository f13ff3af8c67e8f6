import PortableSql.Text.Escape

/-!
# Quotations in a literal

The letters in front of a quotation say what it holds: bytes, a pattern, or characters as they are
written. In all others a backslash starts an escape, and an escape that is cut short or that stands
for nothing is a problem of the whole literal.
-/

namespace PortableSql.Report.Literal

/-- A quotation. -/
structure Quotation where
  /-- Whether it holds bytes. -/
  bytes : Bool
  /-- Whether it is a pattern to be filled in. -/
  pattern : Bool
  /-- Whether its characters stand as they are written. -/
  raw : Bool
  /-- What stands between the quotes. -/
  content : Text
deriving DecidableEq, Repr

/-- Whether a character is beyond ASCII. -/
def isForeign (c : Char) : Bool :=
  0x80 ≤ c.toNat

/-- A character as an escape of eight hexadecimal digits. -/
def wideEscape (c : Char) : Text :=
  "\\U".toList ++ Text.hexDigits 8 c.toNat

/-- The content of a quotation with all characters beyond ASCII as escapes. Positions in messages
count its characters. A backslash at the end stands for itself. -/
def spelledOut : Text → Text
  | [] => []
  | ['\\'] => "\\u005c".toList
  | '\\' :: c :: cs =>
    (if isForeign c then "\\u005c".toList ++ wideEscape c else ['\\', c]) ++ spelledOut cs
  | c :: cs => (if isForeign c then wideEscape c else [c]) ++ spelledOut cs

/-- The size of an escape of `width` hexadecimal digits that is cut short. -/
def hexSize (width : Nat) (t : Text) : Nat :=
  2 + ((t.take width).takeWhile fun c => (Text.hexValue? c).isSome).length

/-- The size of an escape that stands for nothing, and what is wrong with it. The escape is given
without its backslash. -/
def badEscape (t : Text) : Nat × String :=
  match t with
  | 'x' :: cs => (hexSize 2 cs, "truncated \\xXX escape")
  | 'u' :: cs => (hexSize 4 cs, "truncated \\uXXXX escape")
  | 'U' :: cs =>
    let size := hexSize 8 cs
    (size, if size == 10 then "illegal Unicode character" else "truncated \\UXXXXXXXX escape")
  | 'N' :: '\x7b' :: cs =>
    let name := cs.takeWhile (· != '\x7d')
    if name.length == cs.length then (3 + name.length, "malformed \\N character escape")
    else if name.isEmpty then (3, "malformed \\N character escape")
    else (4 + name.length, "unknown Unicode character name")
  | _ => (2, "malformed \\N character escape")

/-- The first escape that stands for nothing, by its position, and what follows its backslash. The
count says how many characters of an escape are still to be passed over. -/
def firstBadEscape? : (skip position : Nat) → Text → Option (Nat × Text)
  | _, _, [] => none
  | skip + 1, position, _ :: cs => firstBadEscape? skip (position + 1) cs
  | 0, position, c :: cs =>
    if c == '\\' then
      match Text.escape? cs with
      | some (_, count) => firstBadEscape? count (position + 1) cs
      | none => some (position, cs)
    else firstBadEscape? 0 (position + 1) cs

/-- What is wrong with characters. -/
def textProblem? (content : Text) : Option Text := do
  let (position, rest) ← firstBadEscape? 0 0 (spelledOut content)
  let (size, message) := badEscape rest
  return "(unicode error) 'unicodeescape' codec can't decode bytes in position ".toList ++
    Text.ofNat position ++ ['-'] ++ Text.ofNat (position + size - 1) ++ ": ".toList ++
    message.toList

/-- The position of the first byte that is not written by two hexadecimal digits. The flag says
whether the last character was a backslash. -/
def firstBadByte? : (escaped : Bool) → (position : Nat) → Text → Option Nat
  | _, _, [] => none
  | false, position, c :: cs => firstBadByte? (c == '\\') (position + 1) cs
  | true, position, c :: cs =>
    if c == 'x' && hexSize 2 cs < 4 then some (position - 1)
    else firstBadByte? false (position + 1) cs

/-- What is wrong with bytes. -/
def bytesProblem? (raw : Bool) (content : Text) : Option Text :=
  if content.any isForeign then some "bytes can only contain ASCII literal characters".toList
  else if raw then none
  else (firstBadByte? false 0 content).map fun position =>
    "(value error) invalid \\x escape at position ".toList ++ Text.ofNat position

/-- The quotation with some letters in front of it and some content. -/
def Quotation.of (letters content : Text) : Quotation :=
  ⟨letters.contains 'b', letters.contains 'f', letters.contains 'r', content⟩

/-- What is wrong with the content of a quotation that is no pattern. -/
def Quotation.problem? (q : Quotation) : Option Text :=
  if q.bytes then bytesProblem? q.raw q.content
  else if q.raw || q.pattern then none
  else textProblem? q.content

end PortableSql.Report.Literal
