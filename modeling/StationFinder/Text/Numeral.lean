/-!
# Text/Numeral — natural numbers in digits

`Numeral.write` gives the decimal digits of a number without leading zeros, `Numeral.value?` the
number that a list of digits stands for.  Hexadecimal digits are written in lower case and read in
either.
-/

namespace StationFinder.Text.Numeral

/-- The value of an ASCII digit. -/
def digit? (c : Char) : Option Nat :=
  if '0' ≤ c ∧ c ≤ '9' then some (c.toNat - '0'.toNat) else none

/-- Whether a character is an ASCII digit. -/
def isDigit (c : Char) : Bool := (digit? c).isSome

/-- The digit of a number below ten. -/
def digitChar (n : Nat) : Char := Char.ofNat ('0'.toNat + n)

/-- The value of a hexadecimal digit of either case. -/
def hexDigit? (c : Char) : Option Nat :=
  if '0' ≤ c ∧ c ≤ '9' then some (c.toNat - '0'.toNat)
  else if 'a' ≤ c ∧ c ≤ 'f' then some (c.toNat - 'a'.toNat + 10)
  else if 'A' ≤ c ∧ c ≤ 'F' then some (c.toNat - 'A'.toNat + 10)
  else none

/-- The hexadecimal digit of a number below sixteen, in lower case. -/
def hexDigitChar (n : Nat) : Char :=
  if n < 10 then digitChar n else Char.ofNat ('a'.toNat + (n - 10))

/-- The hexadecimal digits of a number, the first one not `0` unless the number is. -/
def writeHex (n : Nat) : List Char :=
  if n < 16 then [hexDigitChar n] else writeHex (n / 16) ++ [hexDigitChar (n % 16)]

/-- The decimal digits of a number, the first one not `0` unless the number is. -/
def write (n : Nat) : List Char :=
  if n < 10 then [digitChar n] else write (n / 10) ++ [digitChar (n % 10)]

/-- The number that some digits stand for when they follow the digits of `n`. -/
def extend (n : Nat) : List Char → Option Nat
  | [] => some n
  | c :: s => (digit? c).bind fun d => extend (10 * n + d) s

/-- The number that a nonempty text of digits stands for. -/
def value? (s : List Char) : Option Nat := if s = [] then none else extend 0 s

theorem digit?_digitChar {n : Nat} (h : n < 10) : digit? (digitChar n) = some n := by
  match n, h with
  | 0, _ | 1, _ | 2, _ | 3, _ | 4, _ | 5, _ | 6, _ | 7, _ | 8, _ | 9, _ => decide

theorem write_ne_nil (n : Nat) : write n ≠ [] := by
  rw [write]; split <;> simp

theorem extend_append (n : Nat) (s t : List Char) :
    extend n (s ++ t) = (extend n s).bind fun m => extend m t := by
  induction s generalizing n with
  | nil => rfl
  | cons c s ih =>
    simp only [List.cons_append, extend]
    cases digit? c with
    | none => rfl
    | some d => exact ih _

theorem extend_write (n : Nat) : extend 0 (write n) = some n := by
  fun_induction write n with
  | case1 n h => simp [extend, digit?_digitChar h]
  | case2 n h ih =>
    rw [extend_append, ih]
    simp only [Option.bind_some, extend, digit?_digitChar (Nat.mod_lt n (by omega))]
    exact congrArg some (Nat.div_add_mod n 10)

/-- The digits of a number stand for it. -/
theorem value?_write (n : Nat) : value? (write n) = some n := by
  rw [value?, if_neg (write_ne_nil n), extend_write]

end StationFinder.Text.Numeral
