import PortableSql.Number.Numeral
import PortableSql.Text.Case

/-!
# Numbers and truth values of a settings document

Whole numbers are binary, octal, decimal, hexadecimal or counted in sixtieths. Numbers with a point
are decimal or counted in sixtieths. Underscores are ignored.
-/

namespace PortableSql.Yaml

/-! ## Whole numbers -/

/-- Parts of which each counts sixty times as much as the next. -/
def sixtieths (parts : List Int) : Int :=
  parts.foldl (fun acc part => acc * 60 + part) 0

/-- A whole number without sign: zero, binary, hexadecimal, octal, with sixtieths or decimal. -/
def readMagnitude (t : Text) : Except Fault Int :=
  match t with
  | [] => .error (.empty .text)
  | ['0'] => .ok 0
  | '0' :: 'b' :: digits => Numeral.readWhole 2 digits
  | '0' :: 'x' :: digits => Numeral.readWhole 16 digits
  | '0' :: _ => Numeral.readWhole 8 t
  | _ =>
    if t.contains ':' then ((Text.splitOn ':' t).mapM (Numeral.readWhole 10)).map sixtieths
    else Numeral.readWhole 10 t

/-- A whole number. -/
def readInt (t : Text) : Except Fault Int :=
  let body := t.filter (· != '_')
  (readMagnitude (Text.unsigned body)).map fun n => if Text.isNegative body then -n else n

/-! ## Numbers with a point -/

/-- Parts of which each counts sixty times as much as the one before, added to a sum. A part that
counts more than any floating-point number cannot be added. -/
def addSixtieths : (parts : List Double) → (base : Nat) → (sum : Double) → Except Fault Double
  | [], _, sum => .ok sum
  | part :: parts, base, sum =>
    match Double.ofNat base with
    | .infinite _ => .error .hugeFactor
    | factor => addSixtieths parts (base * 60) (sum.add (part.mul factor))

/-- A floating-point number after its sign, in lower case. What is not a number comes from the
node of the given number, unless it is written with a point. -/
def readFloatMagnitude (node : Nat) (t : Text) : Except Fault Double :=
  if t == ".inf".toList then .ok (.infinite false)
  else if t == ".nan".toList then .ok (.nan none)
  else if t.contains ':' then do
    let parts ← (Text.splitOn ':' t).mapM (Numeral.readReal none)
    let sum ← addSixtieths parts.reverse 1 .zero
    return match sum with
      | .nan _ => .nan (some node)
      | number => number
  else Numeral.readReal (some node) t

/-- A floating-point number. -/
def readFloat (node : Nat) (t : Text) : Except Fault Double :=
  let body := Text.lower (t.filter (· != '_'))
  if body.isEmpty then .error (.empty .text)
  else (readFloatMagnitude node (Text.unsigned body)).map fun real =>
    if Text.isNegative body then real.negated else real

/-! ## Truth values -/

/-- A truth value, in any case. -/
def readBool (t : Text) : Except Fault Bool :=
  let word := Text.lower t
  if ["yes", "true", "on"].any fun w => w.toList == word then .ok true
  else if ["no", "false", "off"].any fun w => w.toList == word then .ok false
  else .error (.missingKey (Text.quoted word))

end PortableSql.Yaml
