import StationFinder.Week.Instant

/-!
# Schedule/Rule — one clause of a station's opening hours

A clause such as `L-V: 08:00-22:00` names a stretch of days and a stretch of minutes; the station is
open when the day lies on the one and the minute on the other.  `Rule.parse` reads a clause,
`Rule.write` writes it.  A clause is looked at from left to right and its first fault is reported.
-/

namespace StationFinder

/-- A stretch of days and a stretch of minutes, both with their ends. -/
structure Rule where
  firstDay : Day
  lastDay : Day
  opens : Minute
  closes : Minute
deriving DecidableEq, Repr

/-- Why a clause cannot be read. -/
inductive ClauseFault where
  /-- No colon with a space behind it divides the days from the times. -/
  | noSeparator
  | unknownDay (code : String)
  /-- There are more than two days. -/
  | dayRange (days : String)
  /-- There is one time only. -/
  | timeRange (times : String)
  | time (fault : TimeFault)
deriving DecidableEq, Repr

/-- The text of a fault in a clause. -/
def ClauseFault.message : ClauseFault → String
  | noSeparator => "missing ': ' between days and times"
  | unknownDay code => "unknown day code '" ++ code ++ "'"
  | dayRange days => "invalid day range '" ++ days ++ "'"
  | timeRange times => "invalid time range '" ++ times ++ "'"
  | time fault => fault.message

namespace Rule

/-- What stands for a whole day in place of two times. -/
def wholeDay : List Char := ['2', '4', 'H']

/-- The end of a day, as a closing time. -/
def endOfDay : List Char := ['2', '4', ':', '0', '0']

/-- Reads the letter of a day. -/
def parseDay (code : List Char) : Except ClauseFault Day :=
  match Day.ofCode? code with
  | some day => .ok day
  | none => .error (.unknownDay (String.ofList (Text.trim code)))

/-- Reads one day, or two with a hyphen between them. -/
def parseDays (days : List Char) : Except ClauseFault (Day × Day) :=
  match days.splitOn '-' with
  | [single] => do
    let day ← parseDay single
    return (day, day)
  | [first, last] => do
    let first ← parseDay first
    let last ← parseDay last
    return (first, last)
  | _ => .error (.dayRange (String.ofList (Text.trim days)))

/-- Reads a clock time within a clause. -/
def parseTime (time : List Char) : Except ClauseFault Minute := (Minute.parse time).mapError .time

/-- Reads a closing time, where the end of the day is its last minute. -/
def parseClosing (time : List Char) : Except ClauseFault Minute :=
  if Text.trim time = endOfDay then .ok Minute.last else parseTime time

/-- Reads two times with a hyphen between them, or what stands for a whole day. -/
def parseTimes (times : List Char) : Except ClauseFault (Minute × Minute) :=
  let times := Text.trim times
  if Text.sameLetters times wholeDay then .ok (Minute.midnight, Minute.last)
  else match Text.cutAt? '-' times with
    | none => .error (.timeRange (String.ofList times))
    | some (opening, closing) => do
      let opens ← parseTime opening
      let closes ← parseClosing closing
      return (opens, closes)

/-- Reads a clause. -/
def parse (clause : List Char) : Except ClauseFault Rule :=
  match Text.cut? [':', ' '] (Text.trim clause) with
  | none => .error .noSeparator
  | some (days, times) => do
    let (firstDay, lastDay) ← parseDays days
    let (opens, closes) ← parseTimes times
    return ⟨firstDay, lastDay, opens, closes⟩

/-- Whether the station is open at an instant by this clause. -/
def covers (rule : Rule) (t : Instant) : Bool :=
  t.day.isWithin rule.firstDay rule.lastDay && t.minute.isWithin rule.opens rule.closes

/-- Writes the days of a clause, a single one where the stretch has one day. -/
def writeDays (rule : Rule) : List Char :=
  if rule.firstDay = rule.lastDay then [rule.firstDay.code]
  else [rule.firstDay.code, '-', rule.lastDay.code]

/-- Writes a clause. -/
def write (rule : Rule) : List Char :=
  rule.writeDays ++ ':' :: ' ' :: rule.opens.write ++ '-' :: rule.closes.write

end Rule

end StationFinder
