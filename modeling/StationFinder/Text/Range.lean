import StationFinder.Text.Numeral

/-!
# Text/Range — properties of characters, as tables of code points

Most properties hold of runs of neighbouring code points, so a property is a list of closed ranges
that ascend and lie apart.  What differs from one code point to the next is a list of rows, each of
which names its first code point and what belongs to it and to those that follow.
-/

namespace StationFinder.Text

/-- Whether a code point lies in one of some ranges. -/
def inRanges : List (Nat × Nat) → Nat → Bool
  | [], _ => false
  | (lo, hi) :: more, n => lo ≤ n && (n ≤ hi || inRanges more n)

/-- What belongs to the range in which a code point lies. -/
def rangeValue? {α : Type} : List (Nat × Nat × α) → Nat → Option α
  | [], _ => none
  | (lo, hi, a) :: more, n =>
    if n < lo then none else if n ≤ hi then some a else rangeValue? more n

/-- A code point in hexadecimal digits. -/
def readCode (digits : List Char) : Nat :=
  digits.foldl (fun n c => 16 * n + (Numeral.hexDigit? c).getD 0) 0

/-- An entry of a row: some code points with dots between them, or nothing, which is a hyphen. -/
def readEntry : List Char → Option (List Nat)
  | ['-'] => none
  | entry => some ((entry.splitOn '.').map readCode)

/-- The entries of some rows, in which blanks stand between them, with their code points. -/
def ofRows (rows : List (Nat × String)) : List (Nat × List Nat) :=
  rows.flatMap fun row =>
    ((row.2.toList.splitOn ' ').zipIdx row.1).filterMap fun entry =>
      (readEntry entry.1).map fun codes => (entry.2, codes)

end StationFinder.Text
