/-!
# `SelectionTypes.Calendar.Moment`: dates and moments

A date is a day of the Gregorian calendar, from the year 1 on. A moment is a date with a time of
day, and perhaps with the distance of its clock from universal time. Two moments of clocks with a
known distance are the same if they are one instant. A moment without a distance is never the same
as one with a distance.
-/

set_option autoImplicit false

namespace SelectionTypes

/-- A day, if there is such a day. -/
structure Date where
  year : Nat
  month : Nat
  day : Nat
  deriving Repr, DecidableEq

namespace Date

/-- Whether a year has 366 days. -/
def isLeapYear (year : Nat) : Bool :=
  year % 4 == 0 && (year % 100 != 0 || year % 400 == 0)

/-- The number of days of a month. -/
def daysIn (year month : Nat) : Nat :=
  if month == 2 then if isLeapYear year then 29 else 28
  else if month == 4 || month == 6 || month == 9 || month == 11 then 30
  else 31

/-- Whether there is such a day. -/
def isReal (date : Date) : Bool :=
  1 ≤ date.year && 1 ≤ date.month && date.month ≤ 12 && 1 ≤ date.day
    && date.day ≤ daysIn date.year date.month

/-- The number of days in front of a year. -/
def daysBefore (year : Nat) : Nat :=
  let years := year - 1
  years * 365 + years / 4 - years / 100 + years / 400

/-- The number of days in front of a date. -/
def number (date : Date) : Nat :=
  let months := (List.range (date.month - 1)).map fun index => daysIn date.year (index + 1)
  daysBefore date.year + months.foldl (· + ·) 0 + (date.day - 1)

/-- The numbers of a date. -/
def parts (date : Date) : List Nat :=
  [date.year, date.month, date.day]

/-- A date as a message shows it. -/
def shown (date : Date) : String :=
  "datetime.date(" ++ ", ".intercalate (date.parts.map toString) ++ ")"

end Date

/-- A time of day, if there is such a time. -/
structure TimeOfDay where
  hour : Nat
  minute : Nat
  second : Nat
  microsecond : Nat := 0
  deriving Repr, DecidableEq

namespace TimeOfDay

/-- Whether there is such a time. -/
def isReal (time : TimeOfDay) : Bool :=
  time.hour < 24 && time.minute < 60 && time.second < 60 && time.microsecond < 1000000

/-- The number of microseconds in front of a time. -/
def number (time : TimeOfDay) : Nat :=
  ((time.hour * 60 + time.minute) * 60 + time.second) * 1000000 + time.microsecond

/-- The numbers of a time as far as they are shown: seconds and microseconds are left out at the
end if they are zero. -/
def parts (time : TimeOfDay) : List Nat :=
  if time.microsecond != 0 then [time.hour, time.minute, time.second, time.microsecond]
  else if time.second != 0 then [time.hour, time.minute, time.second]
  else [time.hour, time.minute]

end TimeOfDay

/-- A date and a time of day. -/
structure Moment where
  date : Date
  time : TimeOfDay
  /-- The distance from universal time in minutes, positive to the east. -/
  offset : Option Int := none
  deriving Repr, DecidableEq

namespace Moment

/-- The number of minutes of a day. -/
def minutesOfDay : Nat := 1440

/-- Whether there is such a moment. A clock is less than a day from universal time. -/
def isReal (moment : Moment) : Bool :=
  moment.date.isReal && moment.time.isReal
    && moment.offset.all fun offset => offset.natAbs < minutesOfDay

/-- The microseconds in front of a moment, by its own clock. -/
def clock (moment : Moment) : Nat :=
  moment.date.number * (minutesOfDay * 60000000) + moment.time.number

/-- The microseconds in front of a moment, by universal time. -/
def instant? (moment : Moment) : Option Int :=
  moment.offset.map fun offset => (moment.clock : Int) - offset * 60000000

/-- Whether two moments are the same. -/
def isSame (first second : Moment) : Bool :=
  match first.instant?, second.instant? with
  | some first, some second => first == second
  | none, none => first.clock == second.clock
  | _, _ => false

/-- A distance from universal time as a message shows it. To the west it is a day less and the
seconds that are too many. -/
def shownOffset (offset : Int) : String :=
  if offset == 0 then "datetime.timezone.utc"
  else
    let days := if offset < 0 then "days=-1, " else ""
    let minutes := if offset < 0 then offset + minutesOfDay else offset
    "datetime.timezone(datetime.timedelta(" ++ days ++ "seconds=" ++ toString (minutes * 60) ++ "))"

/-- A moment as a message shows it. -/
def shown (moment : Moment) : String :=
  let numbers := (moment.date.parts ++ moment.time.parts).map toString
  let zone := (moment.offset.map fun offset => "tzinfo=" ++ shownOffset offset).toList
  "datetime.datetime(" ++ ", ".intercalate (numbers ++ zone) ++ ")"

end Moment

end SelectionTypes
