/-!
Dates and times of day, as a configuration document may hold them.
-/

set_option autoImplicit false

namespace CodeSmells

/-- A day of the calendar. -/
structure CalendarDay where
  year : Nat
  month : Nat
  day : Nat
deriving DecidableEq, Inhabited

/-- A time of day to the microsecond. -/
structure ClockTime where
  hour : Nat
  minute : Nat
  second : Nat
  micros : Nat
deriving DecidableEq, Inhabited

/-- A day, a time of day, or both with an optional offset from the reference time in minutes. -/
inductive Moment where
  | day (date : CalendarDay)
  | time (clock : ClockTime)
  | instant (date : CalendarDay) (clock : ClockTime) (offset : Option Int)
deriving DecidableEq, Inhabited

/-- A number filled up with leading zeros. -/
def zeroPadded (width n : Nat) : String :=
  let ds := toString n
  String.ofList (List.replicate (width - ds.length) '0') ++ ds

/-- The day as year, month and day. -/
def CalendarDay.describe (d : CalendarDay) : String :=
  zeroPadded 4 d.year ++ "-" ++ zeroPadded 2 d.month ++ "-" ++ zeroPadded 2 d.day

/-- The time with microseconds only where there are any. -/
def ClockTime.describe (t : ClockTime) : String :=
  zeroPadded 2 t.hour ++ ":" ++ zeroPadded 2 t.minute ++ ":" ++ zeroPadded 2 t.second ++
    (if t.micros == 0 then "" else "." ++ zeroPadded 6 t.micros)

/-- The offset as a signed number of hours and minutes. -/
def describeOffset (minutes : Int) : String :=
  (if minutes < 0 then "-" else "+") ++ zeroPadded 2 (minutes.natAbs / 60) ++ ":" ++
    zeroPadded 2 (minutes.natAbs % 60)

namespace Moment

/-- The moment as it stands in running text. -/
def describe : Moment → String
  | day d => d.describe
  | time t => t.describe
  | instant d t none => d.describe ++ " " ++ t.describe
  | instant d t (some o) => d.describe ++ " " ++ t.describe ++ describeOffset o

/-- The arguments of a constructor call. -/
def arguments (parts : List String) : String :=
  "(" ++ String.intercalate ", " parts ++ ")"

/-- The numbers of a day. -/
def dayParts (d : CalendarDay) : List String :=
  [toString d.year, toString d.month, toString d.day]

/-- The numbers of a time; seconds and microseconds are left out when they are nought. -/
def timeParts (t : ClockTime) : List String :=
  [toString t.hour, toString t.minute] ++
    (if t.micros != 0 then [toString t.second, toString t.micros]
     else if t.second != 0 then [toString t.second] else [])

/-- The offset as a constructor call. -/
def offsetLiteral (minutes : Int) : String :=
  if minutes == 0 then "datetime.timezone.utc"
  else
    let span :=
      if minutes < 0 then
        "days=-1, seconds=" ++ toString ((86400 + minutes * 60 : Int))
      else "seconds=" ++ toString (minutes * 60)
    "datetime.timezone(datetime.timedelta(" ++ span ++ "))"

/-- The moment as it stands in quoted values. -/
def literal : Moment → String
  | day d => "datetime.date" ++ arguments (dayParts d)
  | time t => "datetime.time" ++ arguments (timeParts t)
  | instant d t none => "datetime.datetime" ++ arguments (dayParts d ++ timeParts t)
  | instant d t (some o) =>
    "datetime.datetime" ++ arguments (dayParts d ++ timeParts t ++ ["tzinfo=" ++ offsetLiteral o])

end Moment

end CodeSmells
