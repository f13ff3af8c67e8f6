/-!
# Floating-point numbers

A floating-point number has 53 significant bits. Results of arithmetic and numbers written in
decimal are fractions first, and are then rounded to the nearest floating-point number; of two that
are equally near the one with the even significand is taken. What is too large is infinite.
-/

namespace PortableSql

/-- A floating-point number. A finite one has at least 53 significant bits unless its exponent is
the least one, so no number is written in two ways, but there are two zeros. -/
inductive Double
  /-- Not a number. Two of them are the same only if they have the same origin. -/
  | nan (origin : Option Nat)
  /-- An infinity. -/
  | infinite (negative : Bool)
  /-- The number `significand · 2 ^ exponent`. -/
  | finite (negative : Bool) (significand : Nat) (exponent : Int)
deriving DecidableEq, Repr

namespace Double

/-- A power of two with an exponent that counts as zero if it is negative. -/
def twoTo (e : Int) : Nat :=
  Nat.pow 2 e.toNat

/-- A power of ten with an exponent that counts as zero if it is negative. -/
def tenTo (e : Int) : Nat :=
  Nat.pow 10 e.toNat

/-- A quotient rounded to a whole number; a half goes to the even one. -/
def roundedQuotient (n d : Nat) : Nat :=
  let quotient := n / d
  let doubled := 2 * (n % d)
  if d < doubled || d == doubled && quotient % 2 == 1 then quotient + 1 else quotient

/-- The least exponent of a floating-point number. -/
def leastExponent : Int :=
  -1074

/-- The greatest exponent of a floating-point number. -/
def greatestExponent : Int :=
  971

/-- The exponent `e` with `2 ^ e ≤ n / d < 2 ^ (e + 1)`. -/
def binaryExponent (n d : Nat) : Int :=
  let e : Int := Int.ofNat (Nat.log2 n) - Int.ofNat (Nat.log2 d)
  if n * twoTo (-e) < d * twoTo e then e - 1 else e

/-- The floating-point number nearest to a fraction. -/
def ofRatio (negative : Bool) (n d : Nat) : Double :=
  let e := max (binaryExponent n d - 52) leastExponent
  let q := roundedQuotient (n * twoTo (-e)) (d * twoTo e)
  if q == 0 then .finite negative 0 leastExponent
  else
    let (q, e) := if q == twoTo 53 then (twoTo 52, e + 1) else (q, e)
    if greatestExponent < e then .infinite negative else .finite negative q e

/-- The floating-point number nearest to a whole number. -/
def ofNat (n : Nat) : Double :=
  ofRatio false n 1

/-- The positive zero. -/
def zero : Double :=
  .finite false 0 leastExponent

/-- The floating-point number nearest to `digits · 10 ^ scale`, where `size` is the number of
digits. Numbers that are far too large or too small are not worked out. -/
def ofDecimal (negative : Bool) (size digits : Nat) (scale : Int) : Double :=
  if digits == 0 || size + scale < -400 then .finite negative 0 leastExponent
  else if 400 + size < size + scale then .infinite negative
  else ofRatio negative (digits * tenTo scale) (tenTo (-scale))

/-- The number with the other sign. -/
def negated : Double → Double
  | nan origin => .nan origin
  | infinite negative => .infinite !negative
  | finite negative significand exponent => .finite (!negative) significand exponent

/-- The significand of a finite number with its sign. -/
def signed (negative : Bool) (significand : Nat) : Int :=
  if negative then -Int.ofNat significand else Int.ofNat significand

/-- The product of two numbers. -/
def mul : Double → Double → Double
  | finite s m e, finite s' m' e' =>
    ofRatio (s != s') (m * m' * twoTo (e + e')) (twoTo (-(e + e')))
  | infinite s, finite s' m _ => if m == 0 then .nan none else .infinite (s != s')
  | finite s m _, infinite s' => if m == 0 then .nan none else .infinite (s != s')
  | infinite s, infinite s' => .infinite (s != s')
  | _, _ => .nan none

/-- The sum of two numbers. A sum of opposite numbers is the positive zero. -/
def add : Double → Double → Double
  | finite s m e, finite s' m' e' =>
    let low := min e e'
    let sum := signed s m * Int.ofNat (twoTo (e - low)) +
      signed s' m' * Int.ofNat (twoTo (e' - low))
    ofRatio (if sum == 0 then s && s' else sum < 0) (sum.natAbs * twoTo low) (twoTo (-low))
  | infinite s, infinite s' => if s == s' then .infinite s else .nan none
  | infinite s, finite _ _ _ => .infinite s
  | finite _ _ _, infinite s => .infinite s
  | _, _ => .nan none

/-- Whether a number is zero, of either sign. -/
def isZero : Double → Bool
  | finite _ significand _ => significand == 0
  | _ => false

end Double

end PortableSql
