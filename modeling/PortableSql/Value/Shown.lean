import PortableSql.Number.Shortest
import PortableSql.Value.Basic

/-!
# Values as text

A value is shown alone or as a part of another value. A text alone is shown as it is, and a moment
in its usual form; as parts they are shown so that one can tell what they are.
-/

namespace PortableSql

/-- A number in decimal with at least `width` digits. -/
def paddedNumber (width n : Nat) : Text :=
  let digits := Text.ofNat n
  List.replicate (width - digits.length) '0' ++ digits

/-- Codes between quotes. One that stands for half of a character is shown as an escape. -/
def quotedCodes (codes : List Nat) : Text :=
  let quote := Text.quoteOf (codes.map Text.charOf)
  let shownCode (code : Nat) : Text :=
    if Text.isHalfCode code then "\\u".toList ++ Text.hexDigits 4 code
    else Text.quotedChar quote (Char.ofNat code)
  [quote] ++ codes.flatMap shownCode ++ [quote]

/-- Bytes between quotes. -/
def quotedBytes (bytes : List UInt8) : Text :=
  let quote := if bytes.contains 0x27 && !bytes.contains 0x22 then '\x22' else '\x27'
  let shownByte (b : UInt8) : Text :=
    let c := Char.ofNat b.toNat
    if c.toNat < 0x7f then Text.quotedChar quote c else Text.hexEscape c
  ['b', quote] ++ bytes.flatMap shownByte ++ [quote]

/-- A duration in minutes. -/
def shownDuration (minutes : Int) : Text :=
  let days := Int.fdiv minutes 1440
  let seconds := Int.fmod minutes 1440 * 60
  let part (name : String) (n : Int) : List Text :=
    if n == 0 then [] else [name.toList ++ ['='] ++ Text.ofInt n]
  let parts := part "days" days ++ part "seconds" seconds
  "datetime.timedelta(".toList ++
    (if parts.isEmpty then ['0'] else Text.join ", ".toList parts) ++ [')']

/-- A day in its usual form. -/
def shownDay (year month day : Nat) : Text :=
  paddedNumber 4 year ++ ['-'] ++ Text.ofNatTwo month ++ ['-'] ++ Text.ofNatTwo day

/-- Numbers between parentheses. -/
def shownNumbers (ns : List Nat) : Text :=
  Text.join ", ".toList (ns.map Text.ofNat)

namespace Timestamp

/-- An offset from universal time in its usual form. -/
def shownOffset (minutes : Int) : Text :=
  let size := minutes.natAbs
  (if minutes < 0 then ['-'] else ['+']) ++ Text.ofNatTwo (size / 60) ++ [':'] ++
    Text.ofNatTwo (size % 60)

/-- A moment in its usual form. -/
def shown (t : Timestamp) : Text :=
  shownDay t.year t.month t.day ++ [' '] ++ Text.ofNatTwo t.hour ++ [':'] ++
    Text.ofNatTwo t.minute ++ [':'] ++ Text.ofNatTwo t.second ++
    (if t.micro == 0 then [] else '.' :: paddedNumber 6 t.micro) ++
    (t.offset.map shownOffset).getD []

/-- The offset from universal time of a moment that is part of another value. -/
def shownZone (minutes : Int) : Text :=
  if minutes == 0 then "datetime.timezone.utc".toList
  else "datetime.timezone(".toList ++ shownDuration minutes ++ [')']

/-- A moment as a part of another value. -/
def quoted (t : Timestamp) : Text :=
  let seconds := if t.second == 0 && t.micro == 0 then [] else [t.second]
  let micros := if t.micro == 0 then [] else [t.micro]
  let zone := match t.offset with
    | none => []
    | some minutes => ", tzinfo=".toList ++ shownZone minutes
  "datetime.datetime(".toList ++
    shownNumbers ([t.year, t.month, t.day, t.hour, t.minute] ++ seconds ++ micros) ++ zone ++ [')']

end Timestamp

namespace Scalar

/-- A scalar alone. -/
def shown : Scalar → Text
  | null => "None".toList
  | bool b => (if b then "True" else "False").toList
  | int i => Text.ofInt i
  | float f => f.shown
  | text t => t
  | halved codes => codes.map Text.charOf
  | bytes bs => quotedBytes bs
  | date year month day => shownDay year month day
  | timestamp t => t.shown

/-- A scalar as a part of another value. -/
def quoted : Scalar → Text
  | text t => Text.quoted t
  | halved codes => quotedCodes codes
  | date year month day =>
    "datetime.date(".toList ++ shownNumbers [year, month, day] ++ [')']
  | timestamp t => t.quoted
  | other => other.shown

end Scalar

namespace Value

mutual

/-- A value as a part of another value. -/
def quoted : Value → Text
  | scalar s => s.quoted
  | list items => ['['] ++ quotedItems items ++ [']']
  | pair first second => ['('] ++ first.quoted ++ ", ".toList ++ second.quoted ++ [')']
  | map fields => ['\x7b'] ++ quotedFields fields ++ ['\x7d']
  | set members => ['\x7b'] ++ Text.join ", ".toList (members.map Scalar.quoted) ++ ['\x7d']
  | endless _ => "...".toList

/-- Values between commas. -/
def quotedItems : List Value → Text
  | [] => []
  | [value] => value.quoted
  | value :: values => value.quoted ++ ", ".toList ++ quotedItems values

/-- Keys and values between commas. -/
def quotedFields : List (Scalar × Value) → Text
  | [] => []
  | [(key, value)] => key.quoted ++ ": ".toList ++ value.quoted
  | (key, value) :: fields =>
    key.quoted ++ ": ".toList ++ value.quoted ++ ", ".toList ++ quotedFields fields

end

/-- A value alone. -/
def shown : Value → Text
  | scalar s => s.shown
  | value => value.quoted

/-- Why a value cannot be looked up, if it cannot. Collections that can change cannot, and a pair
cannot if one of its parts cannot. -/
def lookupFault? : Value → Option Fault
  | scalar _ => none
  | pair first second => first.lookupFault?.or second.lookupFault?
  | value => some (.unhashable value.kind)

end Value

end PortableSql
