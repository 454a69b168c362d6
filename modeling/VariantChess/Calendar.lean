/-!
# Dates

Days of the calendar with leap years in every fourth year but not in three of four centuries, and
moments: a day with a time of day, to the microsecond, and perhaps the distance from universal time.
`Date.make` and `Moment.make` refuse what is on no calendar or clock, and say what is out of bounds.
-/

namespace VariantChess

/-- Which part of a date or of a moment is out of bounds. -/
inductive CalendarFault where
  | year (n : Nat)
  | month
  | day
  | hour
  | minute
  | second
  /-- The distance from universal time, in minutes, is a day or more. -/
  | offset (minutes : Int)
deriving DecidableEq, Repr

structure Date where
  year : Nat
  month : Nat
  day : Nat
deriving DecidableEq, Repr

/-- A moment on some clock; without an offset nobody says on which. -/
structure Moment where
  date : Date
  hour : Nat
  minute : Nat
  second : Nat
  microsecond : Nat := 0
  /-- How many minutes the clock is ahead of universal time. -/
  offset : Option Int := none
deriving DecidableEq, Repr

/-! ### Days -/

def isLeapYear (year : Nat) : Bool := year % 4 == 0 && (year % 100 != 0 || year % 400 == 0)

def daysInMonth (year month : Nat) : Nat :=
  if month = 2 then if isLeapYear year then 29 else 28
  else if [4, 6, 9, 11].contains month then 30
  else 31

namespace Date

/-- The date, if there is such a day in the years 1 to 9999. -/
def make (year month day : Nat) : Except CalendarFault Date :=
  if year = 0 || 9999 < year then .error (.year year)
  else if month = 0 || 12 < month then .error .month
  else if day = 0 || daysInMonth year month < day then .error .day
  else .ok ⟨year, month, day⟩

/-- How many days of the calendar come before the date. -/
def daysBefore (d : Date) : Nat :=
  let years := d.year - 1
  let months := (List.range (d.month - 1)).map fun i => daysInMonth d.year (i + 1)
  years * 365 + years / 4 - years / 100 + years / 400 + months.foldl (· + ·) 0 + (d.day - 1)

end Date

/-! ### Moments -/

namespace Moment

/-- The moment, if a clock can show it. -/
def make (year month day hour minute second microsecond : Nat) (offset : Option Int) :
    Except CalendarFault Moment :=
  match offset.filter fun m => 1440 ≤ m.natAbs with
  | some m => .error (.offset m)
  | none =>
    match Date.make year month day with
    | .error fault => .error fault
    | .ok date =>
      if 23 < hour then .error .hour
      else if 59 < minute then .error .minute
      else if 59 < second then .error .second
      else .ok ⟨date, hour, minute, second, microsecond, offset⟩

/-- The seconds of universal time up to the moment, on a clock without offset those of the clock. -/
def seconds (m : Moment) : Int :=
  (m.date.daysBefore * 86400 + m.hour * 3600 + m.minute * 60 + m.second : Nat) -
    m.offset.getD 0 * 60

/-- Whether two clocks show one moment; a clock that does not say where it is agrees with none that
does. -/
def isSame (m n : Moment) : Bool :=
  m.offset.isSome == n.offset.isSome && m.seconds == n.seconds && m.microsecond == n.microsecond

end Moment

/-! ### Text -/

/-- The number with zeros in front up to the width. -/
def padded (width n : Nat) : String :=
  let digits := Nat.toDigits 10 n
  String.ofList (List.replicate (width - digits.length) '0' ++ digits)

/-- A length of time as messages show it. -/
def shownMinutes (minutes : Int) : String :=
  let total := minutes * 60
  let days := Int.fdiv total 86400
  let seconds := Int.fmod total 86400
  let parts := (if days = 0 then [] else [s!"days={days}"]) ++
    (if seconds = 0 then [] else [s!"seconds={seconds}"])
  "datetime.timedelta(" ++ (if parts.isEmpty then "0" else ", ".intercalate parts) ++ ")"

namespace Date

def plain (d : Date) : String := s!"{padded 4 d.year}-{padded 2 d.month}-{padded 2 d.day}"

/-- The date as messages show it inside another value. -/
def shown (d : Date) : String := s!"datetime.date({d.year}, {d.month}, {d.day})"

end Date

namespace Moment

/-- The offset as hours and minutes behind a sign. -/
def plainOffset (minutes : Int) : String :=
  let sign := if minutes < 0 then "-" else "+"
  sign ++ padded 2 (minutes.natAbs / 60) ++ ":" ++ padded 2 (minutes.natAbs % 60)

/-- The moment as a text of its own; microseconds are left out if there are none. -/
def plain (m : Moment) : String :=
  let clock := s!"{padded 2 m.hour}:{padded 2 m.minute}:{padded 2 m.second}"
  let fraction := if m.microsecond = 0 then "" else "." ++ padded 6 m.microsecond
  m.date.plain ++ " " ++ clock ++ fraction ++ (m.offset.map plainOffset).getD ""

/-- The offset as messages show it. -/
def shownOffset (minutes : Int) : String :=
  if minutes = 0 then "datetime.timezone.utc" else s!"datetime.timezone({shownMinutes minutes})"

/-- The moment as messages show it inside another value; zeros at its end are left out. -/
def shown (m : Moment) : String :=
  let fields := [m.date.year, m.date.month, m.date.day, m.hour, m.minute]
  let small :=
    if m.microsecond ≠ 0 then [m.second, m.microsecond] else if m.second ≠ 0 then [m.second] else []
  let parts := (fields ++ small).map toString ++
    (m.offset.map fun minutes => "tzinfo=" ++ shownOffset minutes).toList
  "datetime.datetime(" ++ ", ".intercalate parts ++ ")"

end Moment

def CalendarFault.message : CalendarFault → String
  | year n => s!"year {n} is out of range"
  | month => "month must be in 1..12"
  | day => "day is out of range for month"
  | hour => "hour must be in 0..23"
  | minute => "minute must be in 0..59"
  | second => "second must be in 0..59"
  | offset minutes =>
    "offset must be a timedelta strictly between -timedelta(hours=24) and timedelta(hours=24), not " ++
      shownMinutes minutes ++ "."

end VariantChess
