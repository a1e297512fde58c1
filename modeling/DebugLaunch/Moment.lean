import DebugLaunch.Text.Basic

/-! Dates, and points in time on a date: a time of day, and perhaps its distance from universal
time. Points with such a distance are compared on the line of universal time. -/
namespace DebugLaunch

/-- A time of day, with the minutes that it is ahead of universal time if they are known. -/
structure TimeOfDay where
  hour : Nat
  minute : Nat
  second : Nat
  microsecond : Nat := 0
  offset : Option Int := none
  deriving DecidableEq, Repr, Inhabited

/-- A date, or a point in time on it. -/
structure Moment where
  year : Nat
  month : Nat
  day : Nat
  time : Option TimeOfDay := none
  deriving DecidableEq, Repr, Inhabited

namespace Moment

/-- Whether a year has a day more. -/
def isLeap (year : Nat) : Bool := year % 4 = 0 && (year % 100 != 0 || year % 400 = 0)

/-- The days of a month. -/
def daysIn (year month : Nat) : Nat :=
  if month = 2 then if isLeap year then 29 else 28
  else if month = 4 || month = 6 || month = 9 || month = 11 then 30
  else 31

/-- The days from a fixed one on. -/
def dayNumber (moment : Moment) : Nat :=
  let past := moment.year - 1
  let months := (List.range (moment.month - 1)).map fun index => daysIn moment.year (index + 1)
  365 * past + past / 4 - past / 100 + past / 400 + months.foldl (· + ·) 0 + moment.day

/-- The microseconds from a fixed point on, in universal time if the offset is known. -/
def instant (moment : Moment) (time : TimeOfDay) : Int :=
  let minutes : Int := (moment.dayNumber * 24 + time.hour) * 60 + time.minute
  ((minutes - time.offset.getD 0) * 60 + time.second) * 1000000 + time.microsecond

/-- Whether two moments are the same. A date is no point in time, and points are compared only if
both offsets are known or neither is. -/
def same (one other : Moment) : Bool :=
  match one.time, other.time with
  | none, none => one = other
  | some time, some otherTime =>
    time.offset.isSome = otherTime.offset.isSome &&
      one.instant time = other.instant otherTime
  | _, _ => false

/-- The text of a length of time, in whole days, rounded down, and seconds. -/
def durationText (minutes : Int) : Text :=
  let days := Int.fdiv minutes 1440
  let seconds := Int.fmod minutes 1440 * 60
  let part (name : String) (value : Int) : List Text :=
    if value = 0 then [] else [name.toList ++ '=' :: Text.ofInt value]
  "datetime.timedelta(".toList ++
    Text.join ", ".toList (part "days" days ++ part "seconds" seconds) ++ [')']

/-- The text of an offset. -/
def offsetText (minutes : Int) : Text :=
  if minutes = 0 then "datetime.timezone.utc".toList
  else "datetime.timezone(".toList ++ durationText minutes ++ [')']

/-- The text of a moment. Seconds and microseconds are left out if nothing but zeros follows. -/
def text (moment : Moment) : Text :=
  let date := [moment.year, moment.month, moment.day].map Text.ofNat
  match moment.time with
  | none => "datetime.date(".toList ++ Text.join ", ".toList date ++ [')']
  | some time =>
    let seconds :=
      if time.microsecond != 0 then [time.second, time.microsecond]
      else if time.second != 0 then [time.second] else []
    let fields := date ++ (time.hour :: time.minute :: seconds).map Text.ofNat ++
      (time.offset.map fun minutes => "tzinfo=".toList ++ offsetText minutes).toList
    "datetime.datetime(".toList ++ Text.join ", ".toList fields ++ [')']

end Moment
end DebugLaunch
