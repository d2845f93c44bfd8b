import TableApi.Text.Integer

/-!
# Days and times of day

Date columns hold a day of the Gregorian calendar, time columns a time of day.  Servers can hold
days and times that do not exist, so reading one from its parts may fail.
-/

namespace TableApi

/-- A number in decimal digits, with zeros in front up to a number of digits. -/
def paddedNumber (width value : Nat) : String :=
  let digits := toString value
  String.ofList (List.replicate (width - digits.length) '0') ++ digits

/-- A day: its year, month and day of the month. -/
structure CalendarDay where
  year : Nat
  month : Nat
  day : Nat
deriving DecidableEq, Repr

namespace CalendarDay

/-- Whether a year has a 29th of February. -/
def isLeapYear (year : Nat) : Bool :=
  year % 4 = 0 && (year % 100 != 0 || year % 400 = 0)

/-- The number of days of a month; there is no month outside 1 to 12. -/
def daysOfMonth (year month : Nat) : Nat :=
  match month with
  | 1 | 3 | 5 | 7 | 8 | 10 | 12 => 31
  | 4 | 6 | 9 | 11 => 30
  | 2 => if isLeapYear year then 29 else 28
  | _ => 0

def isReal (day : CalendarDay) : Bool :=
  1 ≤ day.day && day.day ≤ daysOfMonth day.year day.month

/-- The text of a day.  A year of more than four digits carries a plus sign. -/
def text (day : CalendarDay) : String :=
  (if 9999 < day.year then "+" else "") ++ paddedNumber 4 day.year ++ "-" ++
    paddedNumber 2 day.month ++ "-" ++ paddedNumber 2 day.day

end CalendarDay

/-- A time of day. -/
structure TimeOfDay where
  hour : Nat
  minute : Nat
  second : Nat
  microsecond : Nat
deriving DecidableEq, Repr

namespace TimeOfDay

def midnight : TimeOfDay :=
  ⟨0, 0, 0, 0⟩

/-- Whether a clock shows this time.  Behind the last second of a minute there may be a leap
second. -/
def isReal (time : TimeOfDay) : Bool :=
  time.hour < 24 && time.minute < 60 && time.second < 60 &&
    time.microsecond < if time.second = 59 then 2000000 else 1000000

/-- The text of a time, without the part of a second. -/
def text (time : TimeOfDay) : String :=
  paddedNumber 2 time.hour ++ ":" ++ paddedNumber 2 time.minute ++ ":" ++
    paddedNumber 2 (time.second + time.microsecond / 1000000)

end TimeOfDay

end TableApi
