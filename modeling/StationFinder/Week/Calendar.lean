import StationFinder.Week.Instant

/-!
# Week/Calendar — what is taken from a date-time

A calendar knows dates and times of day; it is given here as whatever answers the questions that
are asked of it (`Calendar`).  Opening hours ask for the day of the week, which a calendar counts
from Monday, and for the hour and the minute.  The minutes after midnight are computed in 32 bits
and kept in 16 (`Calendar.reading`).
-/

namespace StationFinder

/-- A day of the week as a calendar counts them, from Monday on. -/
inductive Weekday where
  | monday
  | tuesday
  | wednesday
  | thursday
  | friday
  | saturday
  | sunday
deriving DecidableEq, Repr

namespace Weekday

/-- The day after a day. -/
def next : Weekday → Weekday
  | monday => tuesday
  | tuesday => wednesday
  | wednesday => thursday
  | thursday => friday
  | friday => saturday
  | saturday => sunday
  | sunday => monday

/-- The same day in a week that begins on Sunday. -/
def day : Weekday → Day
  | monday => .monday
  | tuesday => .tuesday
  | wednesday => .wednesday
  | thursday => .thursday
  | friday => .friday
  | saturday => .saturday
  | sunday => .sunday

/-- The day after has the next place in the week, and after its last place comes the first. -/
theorem index_day_next (w : Weekday) : w.next.day.index = (w.day.index + 1) % 7 := by
  cases w <;> rfl

end Weekday

/-- A calendar: which date-times there are, and what they say.  A date-time shows a date and a time
of day and has no time zone of its own. -/
structure Calendar where
  DateTime : Type
  /-- The date-time at the offset 0, a number of seconds and nanoseconds after the start of 1970. -/
  at? : Int → Nat → Option DateTime
  /-- The date-time that a clock shows which is a number of seconds ahead. -/
  ahead? : DateTime → Int → Option DateTime
  /-- The days from the first of 1970 to the date. -/
  dayNumber : DateTime → Int
  weekday : DateTime → Weekday
  hour : DateTime → UInt32
  minute : DateTime → UInt32
  second : DateTime → UInt32

/-- What is read off a date-time: the day of the week and the minutes after midnight. -/
@[ext]
structure Reading where
  day : Day
  minute : UInt16
deriving DecidableEq, Repr

/-- The minutes from the start of the week. -/
def Reading.minutes (r : Reading) : Nat := r.day.index * 1440 + r.minute.toNat

namespace Calendar

variable (cal : Calendar)

/-- What is read off a date-time. -/
def reading (d : cal.DateTime) : Reading where
  day := (cal.weekday d).day
  minute := (cal.hour d * 60 + cal.minute d).toUInt16

/-- What is read at a point in time off a clock that shows it at the offset 0. -/
def naiveReading? (seconds : Int) (nanos : Nat) : Option Reading :=
  (cal.at? seconds nanos).map cal.reading

/-- What is read at a point in time off a clock that is `offset` seconds ahead. -/
def clockReading? (seconds : Int) (nanos : Nat) (offset : Int) : Option Reading := do
  let universal ← cal.at? seconds nanos
  let shown ← cal.ahead? universal offset
  return cal.reading shown

/-- The seconds from the start of 1970 to what a date-time shows. -/
def seconds (d : cal.DateTime) : Int :=
  86400 * cal.dayNumber d + 3600 * (cal.hour d).toNat + 60 * (cal.minute d).toNat
    + (cal.second d).toNat

end Calendar

end StationFinder
