import PortableSql.Number.Double
import PortableSql.Text.Digits

/-!
# Floating-point numbers as text

A floating-point number is shown with the fewest digits that read back as the same number, and of
those with the nearest ones. The point stands among the digits or close to them; otherwise an
exponent is written.
-/

namespace PortableSql.Double

/-- The exponent `e` with `10 ^ e ≤ n / d < 10 ^ (e + 1)`. -/
def decimalExponent (n d : Nat) : Int :=
  let guess := Int.fdiv (binaryExponent n d * 30103) 100000
  if d * tenTo (guess + 1) ≤ n * tenTo (-(guess + 1)) then guess + 1
  else if d * tenTo guess ≤ n * tenTo (-guess) then guess
  else guess - 1

/-- The decimal with the last place `scale` that reads back as the positive number `n / d`: of the
two next to it the nearer one that does. -/
def decimalAt? (n d : Nat) (number : Double) (scale : Int) : Option Nat :=
  let n := n * tenTo (-scale)
  let d := d * tenTo scale
  let readsBack (digits : Nat) : Bool :=
    ofRatio false (digits * tenTo scale) (tenTo (-scale)) == number
  let nearer := roundedQuotient n d
  let farther := if nearer == n / d then nearer + 1 else n / d
  if readsBack nearer then some nearer
  else if readsBack farther then some farther
  else none

/-- The fewest digits that read back, and the power of ten that the last one counts: at least
`count` of them are tried, and `more` further ones. -/
def fewestDigits (n d : Nat) (number : Double) (first : Int) : (more : Nat) → (count : Nat) →
    Nat × Int
  | 0, _ => (0, 0)
  | more + 1, count =>
    let scale := first - Int.ofNat count
    match decimalAt? n d number scale with
    | some digits => (digits, scale)
    | none => fewestDigits n d number first more (count + 1)

/-- Digits with a point after `place` of them, or with an exponent if the point would be far
away. -/
def placed (digits : Text) (place : Int) : Text :=
  if place ≤ -4 || 16 < place then
    let exponent := place - 1
    let fraction := digits.drop 1
    digits.take 1 ++ (if fraction.isEmpty then [] else '.' :: fraction) ++
      (if exponent < 0 then "e-" else "e+").toList ++ Text.ofNatTwo exponent.natAbs
  else if place ≤ 0 then "0.".toList ++ List.replicate (-place).toNat '0' ++ digits
  else
    let whole := digits.take place.toNat
    let fraction := digits.drop place.toNat
    whole ++ List.replicate (place.toNat - whole.length) '0' ++ ['.'] ++
      (if fraction.isEmpty then ['0'] else fraction)

/-- The text of a positive number. -/
def shownSize (significand : Nat) (exponent : Int) : Text :=
  let n := significand * twoTo exponent
  let d := twoTo (-exponent)
  let number := Double.finite false significand exponent
  let (digits, scale) := fewestDigits n d number (decimalExponent n d) 17 0
  let shown := Text.ofNat digits
  placed (Text.trimEnd (· == '0') shown) (Int.ofNat shown.length + scale)

/-- The text of a number. -/
def shown : Double → Text
  | nan _ => "nan".toList
  | infinite negative => (if negative then "-inf" else "inf").toList
  | finite negative significand exponent =>
    (if negative then ['-'] else []) ++
      (if significand == 0 then "0.0".toList else shownSize significand exponent)

end PortableSql.Double
