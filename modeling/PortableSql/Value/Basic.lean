import PortableSql.Fault
import PortableSql.Number.Double

/-!
# Values of settings

A settings document holds values of many kinds, and nothing guarantees that a field has the kind
that its reader expects. Reading operations therefore fail with a fault that names the kind.
-/

namespace PortableSql

/-- A point in time, to the microsecond; an offset from universal time is given in minutes. -/
structure Timestamp where
  /-- The year. -/
  year : Nat
  /-- The month, from one. -/
  month : Nat
  /-- The day of the month, from one. -/
  day : Nat
  /-- The hour. -/
  hour : Nat
  /-- The minute. -/
  minute : Nat
  /-- The second. -/
  second : Nat
  /-- The microsecond. -/
  micro : Nat
  /-- The offset, if one is given. -/
  offset : Option Int
deriving DecidableEq, Repr

namespace Timestamp

/-- The number of days before a year, and before a month of it. The months are counted from March,
so that a leap day comes last. -/
def daysBefore (year month : Nat) : Nat :=
  let years := if month < 3 then year - 1 else year
  let months := if month < 3 then month + 9 else month - 3
  365 * years + years / 4 - years / 100 + years / 400 + (153 * months + 2) / 5

/-- The microseconds since a fixed moment, if the offset from universal time is given. -/
def instant? (t : Timestamp) : Option Int :=
  t.offset.map fun offset =>
    let minutes := (daysBefore t.year t.month + t.day) * 1440 + t.hour * 60 + t.minute
    ((Int.ofNat minutes - offset) * 60 + Int.ofNat t.second) * 1000000 + Int.ofNat t.micro

end Timestamp

/-- A value without parts. -/
inductive Scalar
  | null
  | bool (b : Bool)
  | int (i : Int)
  | float (f : Double)
  | text (t : Text)
  /-- The codes of what would be a text if some of them did not stand for half of a character. -/
  | halved (codes : List Nat)
  | bytes (bs : List UInt8)
  | date (year month day : Nat)
  | timestamp (t : Timestamp)
deriving DecidableEq, Repr

/-- A value of a settings document. Only scalars are keys of mappings and members of sets. -/
inductive Value
  | scalar (s : Scalar)
  | list (items : List Value)
  | pair (first second : Value)
  | map (fields : List (Scalar × Value))
  | set (members : List Scalar)
  /-- A collection of this kind that is part of itself, and so has no end. -/
  | endless (kind : ValueKind)
deriving Inhabited

namespace Scalar

/-- The text with the given codes, as far as it is one. -/
def ofCodes (codes : List Nat) : Scalar :=
  if codes.any Text.isHalfCode then halved codes else text (codes.map Char.ofNat)

/-- The kind of a scalar. -/
def kind : Scalar → ValueKind
  | null => .absent
  | bool _ => .boolean
  | int _ => .integer
  | float _ => .float
  | text _ => .text
  | halved _ => .text
  | bytes _ => .bytes
  | date _ _ _ => .date
  | timestamp _ => .timestamp

/-- Empty texts, zeros, false and null count as false. -/
def isTruthy : Scalar → Bool
  | null => false
  | bool b => b
  | int i => i != 0
  | float f => !f.isZero
  | text t => !t.isEmpty
  | halved codes => !codes.isEmpty
  | bytes bs => !bs.isEmpty
  | date _ _ _ => true
  | timestamp _ => true

/-- A number `m · 2 ^ e`; truth values count as one and zero. -/
def number? : Scalar → Option (Int × Int)
  | bool b => some (if b then 1 else 0, 0)
  | int i => some (i, 0)
  | float (.finite negative significand exponent) =>
    some (Double.signed negative significand, exponent)
  | _ => none

/-- Two keys are the same when they are equal as numbers, the same moment or equal otherwise. -/
def sameKey (a b : Scalar) : Bool :=
  match a.number?, b.number? with
  | some (m, i), some (n, j) =>
    let low := min i j
    m * Int.ofNat (Double.twoTo (i - low)) == n * Int.ofNat (Double.twoTo (j - low))
  | _, _ =>
    match a, b with
    | timestamp t, timestamp u =>
      t == u || t.instant?.isSome && t.instant? == u.instant?
    | _, _ => a == b

end Scalar

namespace Value

/-- A text as a value. -/
def ofText (t : Text) : Value :=
  .scalar (.text t)

/-- Whether a value is a text that holds half of a character. -/
def isHalved : Value → Bool
  | scalar (.halved _) => true
  | _ => false

/-- The kind of a value. -/
def kind : Value → ValueKind
  | scalar s => s.kind
  | list _ => .list
  | pair _ _ => .pair
  | map _ => .mapping
  | set _ => .set
  | endless kind => kind

/-- Empty values, zeros, false and null count as false. -/
def isTruthy : Value → Bool
  | scalar s => s.isTruthy
  | list items => !items.isEmpty
  | pair _ _ => true
  | map fields => !fields.isEmpty
  | set members => !members.isEmpty
  | endless _ => true

/-- The length of a text or the number of a collection's items. -/
def length : Value → Except Fault Nat
  | scalar (.text t) => .ok t.length
  | scalar (.halved codes) => .ok codes.length
  | scalar (.bytes bs) => .ok bs.length
  | list items => .ok items.length
  | pair _ _ => .ok 2
  | map fields => .ok fields.length
  | set members => .ok members.length
  | value => .error (.unmeasured value.kind)

/-- What a value is made of, in order: the characters of a text, the items of a list, the keys of
a mapping. -/
def items : Value → Except Fault (List Value)
  | scalar (.text t) => .ok (t.map fun c => ofText [c])
  | scalar (.halved codes) => .ok (codes.map fun code => .scalar (.ofCodes [code]))
  | scalar (.bytes bs) => .ok (bs.map fun b => .scalar (.int b.toNat))
  | list items => .ok items
  | pair first second => .ok [first, second]
  | map fields => .ok (fields.map fun field => .scalar field.1)
  | set members => .ok (members.map .scalar)
  | value => .error (.notIterable value.kind)

/-- The item at the first position; of a mapping, what stands under the key zero. -/
def first : Value → Except Fault Value
  | scalar (.text (c :: _)) => .ok (ofText [c])
  | scalar (.text []) => .error (.empty .text)
  | scalar (.halved (code :: _)) => .ok (.scalar (.ofCodes [code]))
  | scalar (.bytes (b :: _)) => .ok (.scalar (.int b.toNat))
  | list (item :: _) => .ok item
  | list [] => .error (.empty .list)
  | pair first _ => .ok first
  | map fields =>
    match fields.find? fun field => field.1.sameKey (.int 0) with
    | some field => .ok field.2
    | none => .error (.missingKey "0".toList)
  | value => .error (.notSubscriptable value.kind)

/-- What a mapping holds under a name. -/
def field? (name : String) : Value → Except Fault (Option Value)
  | map fields =>
    .ok ((fields.find? fun field => field.1 == .text name.toList).map (·.2))
  | value => .error (.unsupported value.kind "get")

end Value

end PortableSql
