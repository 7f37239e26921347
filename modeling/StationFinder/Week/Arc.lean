/-!
# Week/Arc — stretches of a cycle

Days and minutes come round again, so a stretch from one of them to another may pass the end of
the cycle.  `between` decides by comparisons whether a place lies on a stretch; `between_iff` says
the same by counting steps from its start.
-/

namespace StationFinder.Week

/-- Whether a place lies on the stretch from `first` to `last`, both included.  When `last` comes
before `first` the stretch passes the end of the cycle. -/
def between (first last x : Nat) : Bool :=
  if first ≤ last then first ≤ x && x ≤ last else first ≤ x || x ≤ last

/-- How many steps forward lead from one place of a cycle to another. -/
def stepsFrom (length first x : Nat) : Nat := (x + length - first) % length

/-- A step count is the difference, with a round added where that would be negative. -/
theorem stepsFrom_eq {n a x : Nat} (ha : a < n) (hx : x < n) :
    stepsFrom n a x = if a ≤ x then x - a else x + n - a := by
  unfold stepsFrom
  split
  · rw [show x + n - a = x - a + n by omega, Nat.add_mod_right, Nat.mod_eq_of_lt (by omega)]
  · exact Nat.mod_eq_of_lt (by omega)

/-- A place lies on a stretch exactly when no more steps lead to it than to the end. -/
theorem between_iff {n first last x : Nat} (hf : first < n) (hl : last < n) (hx : x < n) :
    between first last x = true ↔ stepsFrom n first x ≤ stepsFrom n first last := by
  rw [stepsFrom_eq hf hx, stepsFrom_eq hf hl, between]
  split <;> simp <;> split <;> omega

end StationFinder.Week
