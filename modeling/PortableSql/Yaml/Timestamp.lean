import PortableSql.Value.Shown
import PortableSql.Yaml.Tag

/-!
# Points in time of a settings document

A point in time is a day, or a day with a time and perhaps an offset from universal time. It must
be in the calendar and on the clock.
-/

namespace PortableSql.Yaml

/-- The number that digits write. -/
def digitsValue (t : Text) : Nat :=
  (Text.readDigits? 10 t).getD 0

/-- The number of days of a month. -/
def daysInMonth (year month : Nat) : Nat :=
  if month == 2 then
    if year % 4 == 0 && (year % 100 != 0 || year % 400 == 0) then 29 else 28
  else if [4, 6, 9, 11].contains month then 30
  else 31

/-- A day that is in the calendar. -/
def checkDay (year month day : Nat) : Except Fault Unit :=
  if year == 0 then .error (.malformed "year 0 is out of range".toList)
  else if month == 0 || 12 < month then .error (.malformed "month must be in 1..12".toList)
  else if day == 0 || daysInMonth year month < day then
    .error (.malformed "day is out of range for month".toList)
  else .ok ()

/-- A time that is on the clock. -/
def checkTime (hour minute second : Nat) : Except Fault Unit :=
  if 23 < hour then .error (.malformed "hour must be in 0..23".toList)
  else if 59 < minute then .error (.malformed "minute must be in 0..59".toList)
  else if 59 < second then .error (.malformed "second must be in 0..59".toList)
  else .ok ()

/-- The offset from universal time in minutes, which is less than a day. -/
def readZone : Option (Char × Text × Text) → Except Fault Int
  | none => .ok 0
  | some (sign, hours, minutes) =>
    let size : Int := digitsValue hours * 60 + digitsValue minutes
    let offset := if sign == '-' then -size else size
    if size < 1440 then .ok offset
    else .error (.malformed ("offset must be a timedelta strictly between ".toList ++
      "-timedelta(hours=24) and timedelta(hours=24), not ".toList ++ shownDuration offset ++
      ".".toList))

/-- A point in time. A line feed at the end does not count. -/
def readTimestamp (t : Text) : Except Fault Scalar :=
  match timestampForm? (Text.withoutFinalBreak t) with
  | none => .error (.unsupported .absent "groupdict")
  | some form => do
    let year := digitsValue form.year
    let month := digitsValue form.month
    let day := digitsValue form.day
    match form.time with
    | none =>
      checkDay year month day
      return .date year month day
    | some (hour, minute, second, fraction) =>
      let offset ← form.zone.mapM readZone
      checkDay year month day
      checkTime (digitsValue hour) (digitsValue minute) (digitsValue second)
      let micro := digitsValue ((fraction ++ List.replicate 6 '0').take 6)
      return .timestamp ⟨year, month, day, digitsValue hour, digitsValue minute,
        digitsValue second, micro, offset⟩

end PortableSql.Yaml
