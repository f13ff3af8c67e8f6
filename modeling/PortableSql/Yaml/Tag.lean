import PortableSql.Text.Digits

/-!
# Tags of a settings document

A tag says what kind of value a node stands for. A plain scalar without a tag gets one by its
form: truth values, numbers, points in time and the null value are recognised, and all else is
text.
-/

namespace PortableSql.Yaml

/-- The kinds of values that a node can stand for. -/
inductive Tag
  | null
  | bool
  | int
  | float
  | binary
  | timestamp
  | omap
  | pairs
  | set
  | str
  | seq
  | map
  | merge
  | value
  | other (name : Text)
deriving DecidableEq, Repr

namespace Tag

/-- What the full names of the known tags start with. -/
def nameSpace : Text :=
  "tag:yaml.org,2002:".toList

/-- The known tags by name. -/
def known : List (String × Tag) :=
  [("null", null), ("bool", bool), ("int", int), ("float", float), ("binary", binary),
    ("timestamp", timestamp), ("omap", omap), ("pairs", pairs), ("set", set), ("str", str),
    ("seq", seq), ("map", map), ("merge", merge), ("value", value)]

/-- The tag of a full name. -/
def ofName (name : Text) : Tag :=
  match Text.after? nameSpace name with
  | some short =>
    match known.find? fun entry => entry.1.toList == short with
    | some entry => entry.2
    | none => other name
  | none => other name

end Tag

/-! ## Forms of plain scalars -/

/-- Words for truth and falsehood. -/
def boolWords : List String :=
  ["yes", "Yes", "YES", "no", "No", "NO", "true", "True", "TRUE", "false", "False", "FALSE", "on",
    "On", "ON", "off", "Off", "OFF"]

/-- Words for the null value, which may also be left out. -/
def nullWords : List String :=
  ["~", "null", "Null", "NULL"]

/-- An ASCII digit or underscore. -/
def isDecimalOrGap (c : Char) : Bool :=
  Text.isDecimal c || c == '_'

/-- A text that is not empty and consists of characters of a class. -/
def allOf (p : Char → Bool) (t : Text) : Bool :=
  !t.isEmpty && t.all p

/-- A minute or second: one digit, or two of which the first is at most five. -/
def isSixtieth (t : Text) : Bool :=
  match t with
  | [d] => Text.isDecimal d
  | [d, e] => '0' ≤ d && d ≤ '5' && Text.isDecimal e
  | _ => false

/-- Digits with underscores, of which the first character satisfies `first`. -/
def isGrouped (first : Char → Bool) (t : Text) : Bool :=
  match t with
  | c :: cs => first c && cs.all isDecimalOrGap
  | [] => false

/-- A number of hours or degrees, and at least one sixtieth after a colon. -/
def isSexagesimal (first : Char → Bool) (t : Text) : Bool :=
  match Text.splitOn ':' t with
  | lead :: sixtieths => isGrouped first lead && !sixtieths.isEmpty && sixtieths.all isSixtieth
  | [] => false

/-- A digit other than zero. -/
def isNonZero (c : Char) : Bool :=
  '1' ≤ c && c ≤ '9'

/-- The form of a whole number: binary, octal, decimal, hexadecimal or with sixtieths. -/
def isIntForm (t : Text) : Bool :=
  let u := Text.unsigned t
  match u with
  | '0' :: 'b' :: cs => allOf (fun c => c == '0' || c == '1' || c == '_') cs
  | '0' :: 'x' :: cs =>
    allOf (fun c => Text.isDecimal c || 'a' ≤ c && c ≤ 'f' || 'A' ≤ c && c ≤ 'F' || c == '_') cs
  | '0' :: cs => cs.all fun c => '0' ≤ c && c ≤ '7' || c == '_'
  | _ => isGrouped isNonZero u || isSexagesimal isNonZero u

/-- An exponent with a sign, or nothing. -/
def isExponentOrEmpty (t : Text) : Bool :=
  match t with
  | [] => true
  | e :: sign :: digits =>
    (e == 'e' || e == 'E') && (sign == '+' || sign == '-') && allOf Text.isDecimal digits
  | _ => false

/-- What follows the point of a number: digits and underscores, and perhaps an exponent. -/
def isFractionForm (t : Text) : Bool :=
  isExponentOrEmpty (t.dropWhile isDecimalOrGap)

/-- The form of a number with a point. -/
def isFloatForm (t : Text) : Bool :=
  let u := Text.unsigned t
  let lead := u.takeWhile (· != '.')
  match u.drop lead.length with
  | '.' :: tail =>
    isGrouped Text.isDecimal lead && isFractionForm tail ||
    isSexagesimal Text.isDecimal lead && tail.all isDecimalOrGap ||
    lead.isEmpty && ["inf", "Inf", "INF"].any (fun w => w.toList == tail) ||
    t.head? == some '.' &&
      (isGrouped Text.isDecimal (tail.takeWhile isDecimalOrGap) && isFractionForm tail ||
        ["nan", "NaN", "NAN"].any (fun w => w.toList == tail))
  | _ => false

/-- The parts of a point in time, as they are written. -/
structure TimestampForm where
  /-- The digits of the year. -/
  year : Text
  /-- The digits of the month. -/
  month : Text
  /-- The digits of the day. -/
  day : Text
  /-- The digits of hour, minute, second and fraction, if there is a time of day. -/
  time : Option (Text × Text × Text × Text)
  /-- The offset: universal time, or a sign with the digits of hours and minutes. -/
  zone : Option (Option (Char × Text × Text))
deriving DecidableEq, Repr

/-- Between `least` and `most` leading digits, and what follows them. -/
def takeDigits? (least most : Nat) (t : Text) : Option (Text × Text) :=
  let digits := (t.take most).takeWhile Text.isDecimal
  if least ≤ digits.length then some (digits, t.drop digits.length) else none

/-- What follows a character that must stand here. -/
def expect? (c : Char) (t : Text) : Option Text :=
  match t with
  | d :: rest => if c == d then some rest else none
  | [] => none

/-- The offset at the end of a point in time. -/
def zoneForm? (t : Text) : Option (Option (Option (Char × Text × Text))) :=
  match t.dropWhile fun c => c == ' ' || c == '\t' with
  | [] => if t.isEmpty then some none else none
  | ['Z'] => some (some none)
  | sign :: rest => do
    if sign != '+' && sign != '-' then none
    else
      let (hours, rest) ← takeDigits? 1 2 rest
      match rest with
      | [] => return some (some (sign, hours, []))
      | _ =>
        let (minutes, rest) ← takeDigits? 2 2 (← expect? ':' rest)
        if rest.isEmpty then return some (some (sign, hours, minutes)) else none

/-- The time of day and offset at the end of a point in time. -/
def timeForm? (t : Text) :
    Option ((Text × Text × Text × Text) × Option (Option (Char × Text × Text))) := do
  let (hour, rest) ← takeDigits? 1 2 t
  let (minute, rest) ← takeDigits? 2 2 (← expect? ':' rest)
  let (second, rest) ← takeDigits? 2 2 (← expect? ':' rest)
  let (fraction, rest) := match rest with
    | '.' :: tail => (tail.takeWhile Text.isDecimal, tail.dropWhile Text.isDecimal)
    | _ => ([], rest)
  return ((hour, minute, second, fraction), ← zoneForm? rest)

/-- What separates a day from a time of day. -/
def afterDay? (t : Text) : Option Text :=
  match t with
  | c :: rest =>
    if c == 'T' || c == 't' then some rest
    else if c == ' ' || c == '\t' then some (t.dropWhile fun c => c == ' ' || c == '\t')
    else none
  | [] => none

/-- The parts of a point in time. -/
def timestampForm? (t : Text) : Option TimestampForm := do
  let (year, rest) ← takeDigits? 4 4 t
  let (month, rest) ← takeDigits? 1 2 (← expect? '-' rest)
  let (day, rest) ← takeDigits? 1 2 (← expect? '-' rest)
  if rest.isEmpty then return ⟨year, month, day, none, none⟩
  else
    let (time, zone) ← timeForm? (← afterDay? rest)
    return ⟨year, month, day, some time, zone⟩

/-- The form of a point in time. Without a time of day, month and day have two digits. -/
def isTimestampForm (t : Text) : Bool :=
  match timestampForm? t with
  | some form => form.time.isSome || form.month.length == 2 && form.day.length == 2
  | none => false

/-- The tag of a scalar, by its form. A line feed at the end does not count, but a text of a line
feed alone is not empty. -/
def Tag.ofPlain (t : Text) : Tag :=
  let body := Text.withoutFinalBreak t
  if boolWords.any fun w => w.toList == body then .bool
  else if isFloatForm body then .float
  else if isIntForm body then .int
  else if body == "<<".toList then .merge
  else if t.isEmpty || nullWords.any fun w => w.toList == body then .null
  else if isTimestampForm body then .timestamp
  else if body == ['='] then .value
  else .str

end PortableSql.Yaml
