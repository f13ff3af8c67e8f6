import PortableSql.Text.Digits

/-!
# Moments

A moment is a date and time of day. It stands at the head of a macro library.
-/

namespace PortableSql.Macro

/-- A date and time of day. -/
structure Moment where
  /-- The year. -/
  year : Nat
  /-- The month, from one. -/
  month : Nat
  /-- The day of the month, from one. -/
  day : Nat
  /-- The hour. -/
  hour : Nat
  /-- The minute. -/
  minute : Nat
  /-- The second. -/
  second : Nat
deriving DecidableEq, Repr

namespace Moment

/-- A moment as year, month and day, then hour, minute and second. -/
def shown (moment : Moment) : Text :=
  Text.ofNat moment.year ++ ['-'] ++ Text.ofNatTwo moment.month ++ ['-'] ++
    Text.ofNatTwo moment.day ++ [' '] ++ Text.ofNatTwo moment.hour ++ [':'] ++
    Text.ofNatTwo moment.minute ++ [':'] ++ Text.ofNatTwo moment.second

/-- The date of a day, counted from the first of March of the year zero. Years start in March, so
that a leap day is the last day of its year. -/
def date (days : Nat) : Nat × Nat × Nat :=
  let century := (4 * days + 3) / 146097
  let dayOfCentury := days - century * 146097 / 4
  let year := (4 * dayOfCentury + 3) / 1461
  let dayOfYear := dayOfCentury - year * 1461 / 4
  let month := (5 * dayOfYear + 2) / 153
  let day := dayOfYear - (153 * month + 2) / 5 + 1
  if month < 10 then (100 * century + year, month + 3, day)
  else (100 * century + year + 1, month - 9, day)

/-- The days from the first of March of the year zero to the first of January 1970. -/
def epochDay : Nat :=
  719468

/-- The moment that comes this many seconds after the start of 1970. -/
def ofSeconds (seconds : Nat) : Moment :=
  let (year, month, day) := date (epochDay + seconds / 86400)
  let time := seconds % 86400
  ⟨year, month, day, time / 3600, time / 60 % 60, time % 60⟩

end Moment

end PortableSql.Macro
