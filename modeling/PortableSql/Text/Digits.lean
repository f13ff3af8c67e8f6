import PortableSql.Text.Basic

/-!
# Numbers in texts

Decimal and hexadecimal numerals, written and read, and the codes of characters. Some codes stand
for half of a character only: two of them, a surrogate pair, make one character. An escape may give
such a half alone.
-/

namespace PortableSql.Text

/-- A natural number in decimal. -/
def ofNat (n : Nat) : Text :=
  Nat.toDigits 10 n

/-- An integer in decimal, with a minus sign if it is negative. -/
def ofInt (i : Int) : Text :=
  if i < 0 then '-' :: ofNat i.natAbs else ofNat i.natAbs

/-- A number in decimal with at least two digits. -/
def ofNatTwo (n : Nat) : Text :=
  if n < 10 then '0' :: ofNat n else ofNat n

/-- An ASCII digit. -/
def isDecimal (c : Char) : Bool :=
  '0' ≤ c && c ≤ '9'

/-- A text without the sign at its start. -/
def unsigned (t : Text) : Text :=
  match t with
  | '+' :: cs => cs
  | '-' :: cs => cs
  | _ => t

/-- Whether a text starts with a minus sign. -/
def isNegative (t : Text) : Bool :=
  t.head? == some '-'

/-- The digit of value `n` in a base up to sixteen. -/
def hexDigit (n : Nat) : Char :=
  Nat.digitChar (n % 16)

/-- The last `width` hexadecimal digits of a number. -/
def hexDigits : (width : Nat) → Nat → Text
  | 0, _ => []
  | width + 1, n => hexDigits width (n / 16) ++ [hexDigit n]

/-- The value of a hexadecimal digit. -/
def hexValue? (c : Char) : Option Nat :=
  if '0' ≤ c && c ≤ '9' then some (c.toNat - 48)
  else if 'a' ≤ c && c ≤ 'f' then some (c.toNat - 87)
  else if 'A' ≤ c && c ≤ 'F' then some (c.toNat - 55)
  else none

/-- The number written by digits of a base up to sixteen, or nothing if one of the characters is
no digit of that base. -/
def readDigits? (base : Nat) (t : Text) : Option Nat :=
  t.foldl
    (fun acc c => acc.bind fun n => (hexValue? c).bind fun d =>
      if d < base then some (n * base + d) else none)
    (some 0)

/-- Whether a code stands for half of a character. -/
def isHalfCode (n : Nat) : Bool :=
  0xd800 ≤ n && n ≤ 0xdfff

/-- The character with the given code. No text holds half of a character, so a code that stands for
one gives the replacement character. -/
def charOf (n : Nat) : Char :=
  if isHalfCode n then '\ufffd' else Char.ofNat n

/-- The character with the given code, if there is one. -/
def ofCode? (n : Nat) : Option Char :=
  if 0x110000 ≤ n then none else some (charOf n)

/-- A character as a backslash escape of two, four or eight hexadecimal digits, the shortest that
can hold it. -/
def hexEscape (c : Char) : Text :=
  let n := c.toNat
  if n < 0x100 then "\\x".toList ++ hexDigits 2 n
  else if n < 0x10000 then "\\u".toList ++ hexDigits 4 n
  else "\\U".toList ++ hexDigits 8 n

end PortableSql.Text
