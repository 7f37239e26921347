import StationFinder.Text.Cut
import StationFinder.Text.Numeral
import StationFinder.Text.Blank
import StationFinder.Text.Utf8
import StationFinder.Week.Arc

/-!
# Week/Minute — the minutes of a day

A clock time is counted in minutes after midnight.  It is written `HH:MM`; when read, the hour may
have a single digit.  A stretch of minutes may pass midnight, and one whose ends are equal is the
whole day.
-/

namespace StationFinder

/-- A minute of the day, counted from midnight. -/
structure Minute where
  count : Nat
  count_lt : count < 1440 := by decide
deriving DecidableEq, Repr

/-- Why a text is no clock time. -/
inductive TimeFault where
  | noColon
  | hourLength
  | hourNotDigits
  | hourTooLarge
  | minuteLength
  | minuteNotDigits
  | minuteTooLarge
deriving DecidableEq, Repr

/-- The text of a fault in a clock time. -/
def TimeFault.message (fault : TimeFault) : String :=
  "invalid time: " ++ match fault with
    | noColon => "expected HH:MM format"
    | hourLength => "hour must be one or two digits"
    | hourNotDigits => "invalid hour digits"
    | hourTooLarge => "hour must be 0-23"
    | minuteLength => "minute must be two digits"
    | minuteNotDigits => "invalid minute digits"
    | minuteTooLarge => "minute must be 0-59"

namespace Minute

/-- 00:00. -/
def midnight : Minute := ⟨0, by decide⟩

/-- 23:59. -/
def last : Minute := ⟨1439, by decide⟩

/-- The minute with a count, if a day has it. -/
def ofCount? (n : Nat) : Option Minute := if h : n < 1440 then some ⟨n, h⟩ else none

/-- The minute of an hour and a minute within it, if a clock shows them. -/
def ofClock? (hour minute : Nat) : Option Minute :=
  if h : hour ≤ 23 ∧ minute ≤ 59 then some ⟨hour * 60 + minute, by omega⟩ else none

/-- The hour on the clock. -/
def hour (t : Minute) : Nat := t.count / 60

/-- The minute within the hour. -/
def minute (t : Minute) : Nat := t.count % 60

/-- The minutes after midnight in a word of 16 bits. -/
def word (t : Minute) : UInt16 := UInt16.ofNatLT t.count (Nat.lt_trans t.count_lt (by decide))

/-- A number below a hundred in two digits. -/
def twoDigits (n : Nat) : List Char :=
  [Text.Numeral.digitChar (n / 10), Text.Numeral.digitChar (n % 10)]

/-- The time as a clock shows it, `HH:MM`. -/
def write (t : Minute) : List Char := twoDigits t.hour ++ ':' :: twoDigits t.minute

/-- The time as a clock shows it, as a string. -/
def text (t : Minute) : String := String.ofList t.write

/-- The time as it is named in a diagnosis. -/
def diagnosis (t : Minute) : String := "MinuteOfDay(" ++ t.text ++ ")"

/-- Reads a clock time.  The hour has one or two digits and is looked at first, the minute has
exactly two; both are measured in bytes. -/
def parse (s : List Char) : Except TimeFault Minute := do
  let some (hours, minutes) := Text.cutAt? ':' (Text.trim s) | throw .noColon
  if hours = [] ∨ 2 < Text.Utf8.byteLength hours then throw .hourLength
  let some hour := Text.Numeral.value? hours | throw .hourNotDigits
  if 23 < hour then throw .hourTooLarge
  if Text.Utf8.byteLength minutes ≠ 2 then throw .minuteLength
  let some minute := Text.Numeral.value? minutes | throw .minuteNotDigits
  match ofClock? hour minute with
  | some t => return t
  | none => throw .minuteTooLarge

/-- Whether a time lies on the stretch from `first` to `last`, both included.  Equal ends stand for
the whole day. -/
def isWithin (t first last : Minute) : Bool :=
  first = last || Week.between first.count last.count t.count

@[simp] theorem toNat_word (t : Minute) : t.word.toNat = t.count := UInt16.toNat_ofNatLT

@[simp] theorem hour_lt (t : Minute) : t.hour < 24 := by
  have := t.count_lt; unfold hour; omega

@[simp] theorem minute_lt (t : Minute) : t.minute < 60 := Nat.mod_lt _ (by decide)

/-- A time is its hour and its minute. -/
theorem ofClock?_hour_minute (t : Minute) : ofClock? t.hour t.minute = some t := by
  have hh := t.hour_lt
  have hm := t.minute_lt
  have : t.hour * 60 + t.minute = t.count := Nat.div_add_mod' t.count 60
  simp [ofClock?, Nat.le_of_lt_succ hh, Nat.le_of_lt_succ hm, this]

end Minute

end StationFinder
