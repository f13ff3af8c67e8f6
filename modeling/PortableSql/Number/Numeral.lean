import PortableSql.Fault
import PortableSql.Number.Double
import PortableSql.Text.Blank
import PortableSql.Text.Digit

/-!
# Numerals

Whole numbers in several bases and decimals, as texts. Digits may be of any script, and blanks
around a numeral are ignored, but for the four information separators. A numeral that is too long
is not read, and a message about one that is malformed shows its first characters only.
-/

namespace PortableSql.Numeral

/-- Blanks that may stand around a numeral. -/
def isMargin (c : Char) : Bool :=
  Text.isBlank c && !(0x1c ≤ c.toNat && c.toNat ≤ 0x1f)

/-! ## Whole numbers -/

/-- The letter after a zero that announces digits of a base. -/
def baseLetter? : Nat → Option Char
  | 2 => some 'B'
  | 8 => some 'O'
  | 16 => some 'X'
  | _ => none

/-- Digits without the zero and the letter that announce their base. -/
def withoutBaseMark (base : Nat) (t : Text) : Text :=
  match t with
  | '0' :: c :: digits => if some c.toUpper == baseLetter? base then digits else t
  | _ => t

/-- The value of a digit in a base up to sixteen. -/
def digit? (base : Nat) (c : Char) : Option Nat :=
  ((Text.digitValue? c).or (Text.hexValue? c)).filter (· < base)

/-- The number that digits of a base write. -/
def digitsValue (base : Nat) (t : Text) : Nat :=
  (t.filterMap (digit? base)).foldl (fun n d => n * base + d) 0

/-- The largest number of decimal digits that are read. -/
def decimalLimit : Nat :=
  4300

/-- A numeral of too many digits. -/
def tooLong (count : Nat) : Fault :=
  .malformed ("Exceeds the limit (4300 digits) for integer string conversion: value has ".toList ++
    Text.ofNat count ++ " digits; use sys.set_int_max_str_digits() to increase the limit".toList)

/-- The number of characters that are shown of a malformed whole number. -/
def shownLimit : Nat :=
  200

/-- A text that is no whole number. -/
def notWhole (base : Nat) (t : Text) : Fault :=
  .malformed ("invalid literal for int() with base ".toList ++ Text.ofNat base ++ ": ".toList ++
    (Text.quoted t).take shownLimit)

/-- A whole number in a base up to sixteen, with an optional sign. -/
def readWhole (base : Nat) (t : Text) : Except Fault Int :=
  let body := Text.trim isMargin t
  let numeral := withoutBaseMark base (Text.unsigned body)
  let digits := numeral.takeWhile fun c => (digit? base c).isSome
  if base == 10 && decimalLimit < digits.length then .error (tooLong digits.length)
  else if digits.isEmpty || digits.length != numeral.length then .error (notWhole base t)
  else
    let n := Int.ofNat (digitsValue base digits)
    .ok (if Text.isNegative body then -n else n)

/-! ## Decimals -/

/-- An exponent with an optional sign. -/
def readExponent? (t : Text) : Option Int :=
  let digits := Text.unsigned t
  if digits.isEmpty then none
  else (Text.readDigits? 10 digits).map fun n =>
    if Text.isNegative t then -Int.ofNat n else Int.ofNat n

/-- A decimal without sign. -/
def readDecimal? (t : Text) : Option Double := do
  let mantissa := t.takeWhile fun c => Text.isDecimal c || c == '.'
  let scale ← match t.drop mantissa.length with
    | [] => some 0
    | e :: rest => if e == 'e' then readExponent? rest else none
  let whole := mantissa.takeWhile Text.isDecimal
  let fraction := (mantissa.drop whole.length).drop 1
  let digits := whole ++ fraction
  if digits.isEmpty then none
  else
    let n ← Text.readDigits? 10 digits
    return .ofDecimal false digits.length n (scale - Int.ofNat fraction.length)

/-- Digits of all scripts as those of ASCII. -/
def asciiDigits (t : Text) : Text :=
  t.map fun c => ((Text.digitValue? c).map fun d => Char.ofNat (48 + d)).getD c

/-- A decimal, an infinity or not a number, in lower case, without sign. What is not a number
comes from the given origin. -/
def readSize? (origin : Option Nat) (t : Text) : Option Double :=
  if t == "inf".toList || t == "infinity".toList then some (.infinite false)
  else if t == "nan".toList then some (.nan origin)
  else readDecimal? t

/-- A decimal, an infinity or not a number, in lower case, with an optional sign. -/
def readReal (origin : Option Nat) (t : Text) : Except Fault Double :=
  let body := asciiDigits (Text.trim isMargin t)
  match readSize? origin (Text.unsigned body) with
  | some size => .ok (if Text.isNegative body then size.negated else size)
  | none => .error (.malformed ("could not convert string to float: ".toList ++ Text.quoted t))

end PortableSql.Numeral
