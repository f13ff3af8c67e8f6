import PortableSql.Text.Digits
import PortableSql.Text.CharacterName

/-!
# Backslash escapes in string literals

The inside of a string literal is read in two steps. First every character beyond ASCII is written
as a hexadecimal escape. Then the escapes are decoded from left to right. So a backslash in front
of such a character is an escaped backslash, and the digits of the character's code remain.

A backslash in front of a character that makes no escape stays, together with that character. An
escape that is cut short, or that names no character, makes the literal invalid.
-/

namespace PortableSql.Text

/-- Writes the characters beyond ASCII as hexadecimal escapes. -/
def escapeNonAscii (t : Text) : Text :=
  t.flatMap fun c => if c.toNat < 0x80 then [c] else hexEscape c

/-- The value of an octal digit. -/
def octalValue? (c : Char) : Option Nat :=
  if '0' ≤ c && c ≤ '7' then some (c.toNat - 48) else none

/-- The value of the leading octal digits, at most `limit` of them, and how many there are. -/
def readOctal : (limit : Nat) → (value : Nat) → Text → Nat × Nat
  | limit + 1, value, c :: cs =>
    match octalValue? c with
    | some d =>
      let (n, count) := readOctal limit (value * 8 + d) cs
      (n, count + 1)
    | none => (value, 0)
  | _, value, _ => (value, 0)

/-- The character of an escape of exactly `width` hexadecimal digits. -/
def hexEscape? (width : Nat) (t : Text) : Option Char :=
  let digits := t.take width
  if digits.length < width then none else (readDigits? 16 digits).bind ofCode?

/-- What an escape stands for, and how many characters after the backslash belong to it. -/
def escape? : Text → Option (Text × Nat)
  | [] => none
  | '\n' :: _ => some ([], 1)
  | '\\' :: _ => some (['\\'], 1)
  | '\x27' :: _ => some (['\x27'], 1)
  | '\x22' :: _ => some (['\x22'], 1)
  | 'a' :: _ => some (['\x07'], 1)
  | 'b' :: _ => some (['\x08'], 1)
  | 'f' :: _ => some (['\x0c'], 1)
  | 'n' :: _ => some (['\n'], 1)
  | 'r' :: _ => some (['\r'], 1)
  | 't' :: _ => some (['\t'], 1)
  | 'v' :: _ => some (['\x0b'], 1)
  | 'x' :: cs => (hexEscape? 2 cs).map fun c => ([c], 3)
  | 'u' :: cs => (hexEscape? 4 cs).map fun c => ([c], 5)
  | 'U' :: cs => (hexEscape? 8 cs).map fun c => ([c], 9)
  | 'N' :: '\x7b' :: cs =>
    let name := cs.takeWhile (· != '\x7d')
    if name.length < cs.length then
      (charNamed? name).map fun c => ([c], name.length + 3)
    else none
  | 'N' :: _ => none
  | c :: cs =>
    if (octalValue? c).isSome then
      let (n, count) := readOctal 3 0 (c :: cs)
      (ofCode? n).map fun c => ([c], count)
    else some (['\\', c], 1)

/-- Decodes escapes. The count says how many characters of an escape are still to be passed
over. -/
def unescapeFrom : Nat → Text → Option Text
  | _, [] => some []
  | skip + 1, _ :: cs => unescapeFrom skip cs
  | 0, c :: cs =>
    if c == '\\' then
      match escape? cs with
      | none => none
      | some (decoded, count) => (unescapeFrom count cs).map (decoded ++ ·)
    else (unescapeFrom 0 cs).map (c :: ·)

/-- What the inside of a string literal stands for, or nothing if it holds an invalid escape. -/
def unescape? (t : Text) : Option Text :=
  unescapeFrom 0 (escapeNonAscii t)

end PortableSql.Text
