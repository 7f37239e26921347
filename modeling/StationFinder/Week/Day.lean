import StationFinder.Text.Blank
import StationFinder.Week.Arc

/-!
# Week/Day — the days of the week

Opening hours name the days by the first letters of their Spanish names, with `X` for *miércoles*.
The days are counted from Sunday, and a stretch of days may pass the end of the week.
-/

namespace StationFinder

/-- A day of the week. -/
inductive Day where
  | sunday
  | monday
  | tuesday
  | wednesday
  | thursday
  | friday
  | saturday
deriving DecidableEq, Repr

namespace Day

/-- The days, from Sunday on. -/
def all : List Day := [sunday, monday, tuesday, wednesday, thursday, friday, saturday]

/-- The place of a day in the week, Sunday at zero. -/
def index : Day → Nat
  | sunday => 0
  | monday => 1
  | tuesday => 2
  | wednesday => 3
  | thursday => 4
  | friday => 5
  | saturday => 6

/-- The day at a place of the week. -/
def ofIndex? (n : Nat) : Option Day := all[n]?

/-- The day that many days after a Sunday. -/
def afterSunday (n : Nat) : Day := (ofIndex? (n % 7)).getD sunday

/-- The letter that opening hours use for a day. -/
def code : Day → Char
  | sunday => 'D'
  | monday => 'L'
  | tuesday => 'M'
  | wednesday => 'X'
  | thursday => 'J'
  | friday => 'V'
  | saturday => 'S'

/-- The English name of a day. -/
def name : Day → String
  | sunday => "Sunday"
  | monday => "Monday"
  | tuesday => "Tuesday"
  | wednesday => "Wednesday"
  | thursday => "Thursday"
  | friday => "Friday"
  | saturday => "Saturday"

/-- The day whose letter a text is, with blanks around it or not. -/
def ofCode? (s : List Char) : Option Day :=
  let letter := Text.trim s
  all.find? fun day => [day.code] = letter

/-- Whether a day lies on the stretch of days from `first` to `last`, both included. -/
def isWithin (day first last : Day) : Bool := Week.between first.index last.index day.index

theorem index_lt (day : Day) : day.index < 7 := by cases day <;> decide

theorem ofIndex?_index (day : Day) : ofIndex? day.index = some day := by cases day <;> rfl

@[simp] theorem index_afterSunday (n : Nat) : (afterSunday n).index = n % 7 := by
  have h : ∀ r < 7, ((ofIndex? r).getD sunday).index = r := by decide
  exact h _ (Nat.mod_lt n (by decide))

theorem ofCode?_code (day : Day) : ofCode? [day.code] = some day := by cases day <;> decide

/-- A text names a day exactly when it is the day's letter and blanks. -/
theorem ofCode?_eq_some {s : List Char} {day : Day} :
    ofCode? s = some day ↔ Text.trim s = [day.code] := by
  constructor
  · intro h
    rw [ofCode?] at h
    have hday := List.find?_some h
    simpa [eq_comm] using hday
  · intro h
    have := ofCode?_code day
    simp only [ofCode?, h] at this ⊢
    cases day <;> decide

end Day

end StationFinder
