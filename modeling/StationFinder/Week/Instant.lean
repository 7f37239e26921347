import StationFinder.Week.Day
import StationFinder.Week.Minute

/-!
# Week/Instant — places in the week

Opening hours repeat every week, so all they ask of the clock is the day of the week and the
minute of the day.  An instant is found from the seconds since the start of 1970, a Thursday, and
the offset of the clock on the wall; `ofTime?` keeps to the times that the calendar reaches, and
`now?` to those that a clock can show.
-/

namespace StationFinder

/-- A day of the week and a minute of that day. -/
structure Instant where
  day : Day
  minute : Minute
deriving DecidableEq, Repr

namespace Instant

/-- The minutes in a week. -/
def weekLength : Nat := 7 * 1440

/-- The instant a number of minutes after the start of a Sunday. -/
def ofMinutes (n : Nat) : Instant where
  day := Day.afterSunday (n / 1440)
  minute := ⟨n % 1440, Nat.mod_lt n (by decide)⟩

/-- The minutes from the start of the week. -/
def minutes (t : Instant) : Nat := t.day.index * 1440 + t.minute.count

/-- What the clock on the wall shows a number of seconds after the start of 1970, when it is
`offset` seconds ahead. -/
def ofSeconds (seconds offset : Int) : Instant :=
  ofMinutes (((seconds + offset).fdiv 60 + 4 * 1440).emod weekLength).toNat

/-- Whether the calendar reaches a second after the start of 1970: it goes from the year -262143 to
the year 262142. -/
def isInCalendar (seconds : Int) : Bool := -8334601228800 ≤ seconds && seconds < 8210266876800

/-- Whether a second can be divided at a number of nanoseconds; the last one of a minute may be
twice as long. -/
def isInSecond (seconds : Int) (nanos : Nat) : Bool :=
  nanos < Nat.pow 10 9 || (nanos < 2 * Nat.pow 10 9 && seconds.emod 60 = 59)

/-- What the clock on the wall shows at a point in time, if the calendar reaches it both there and
at the offset 0; a clock is less than a day ahead or behind. -/
def ofTime? (seconds : Int) (nanos : Nat) (offset : Int) : Option Instant :=
  if isInSecond seconds nanos && offset.natAbs < 86400 && isInCalendar seconds
      && isInCalendar (seconds + offset) then
    some (ofSeconds seconds offset)
  else none

/-- What the clock on the wall shows by a clock that has run since the start of 1970; before that,
and where the calendar does not reach, it shows nothing. -/
def now? (seconds offset : Int) : Option Instant :=
  if 0 ≤ seconds then ofTime? seconds 0 offset else none

/-- The letter of the day and the time. -/
def text (t : Instant) : String := String.ofList (t.day.code :: ' ' :: t.minute.write)

theorem minutes_lt (t : Instant) : t.minutes < weekLength := by
  have := t.day.index_lt; have := t.minute.count_lt
  unfold minutes weekLength; omega

@[simp] theorem minutes_ofMinutes (n : Nat) : (ofMinutes n).minutes = n % weekLength := by
  simp only [minutes, ofMinutes, Day.index_afterSunday, weekLength]; omega

end Instant

end StationFinder
