/-!
# Text/Punycode — any text in ASCII letters, digits and hyphens

The ASCII characters of a text stand in front, and behind a hyphen follow the others, each as the
distance from the one before when all of them are sorted by code point and then by place.  The
distances are written in digits of base 36 with a threshold for every digit, below which a digit is
the last one of its number; the thresholds follow the sizes of the distances.
-/

namespace StationFinder.Text.Punycode

/-- The base of the digits. -/
def base : Nat := 36

/-- The digit with a value: a letter, or a decimal digit from 26 on. -/
def digitChar (d : Nat) : Char :=
  if d < 26 then Char.ofNat ('a'.toNat + d) else Char.ofNat ('0'.toNat + (d - 26))

/-- The value of a digit. -/
def digit? (c : Char) : Option Nat :=
  if 'a' ≤ c ∧ c ≤ 'z' then some (c.toNat - 'a'.toNat)
  else if '0' ≤ c ∧ c ≤ '9' then some (c.toNat - '0'.toNat + 26)
  else none

/-- The threshold at a place, which is counted in steps of the base. -/
def threshold (bias place : Nat) : Nat := max 1 (min 26 (place - bias))

theorem threshold_pos (bias place : Nat) : 0 < threshold bias place := by
  unfold threshold; omega

/-- Divides a distance until it is small, and counts the divisions in steps of the base. -/
def settle (distance steps : Nat) : Nat × Nat :=
  if 455 < distance then settle (distance / 35) (steps + base) else (distance, steps)
termination_by distance

/-- The bias after a distance, where `count` characters are known by then. -/
def nextBias (distance count : Nat) (isFirst : Bool) : Nat :=
  let distance := if isFirst then distance / 700 else distance / 2
  let (distance, steps) := settle (distance + distance / count) 0
  steps + 36 * distance / (distance + 38)

/-! ## Writing -/

/-- The digits of a distance. -/
def writeDistance (bias place distance : Nat) : List Char :=
  let t := threshold bias place
  if distance < t then [digitChar distance]
  else
    digitChar (t + (distance - t) % (base - t))
      :: writeDistance bias (place + base) ((distance - t) / (base - t))
termination_by distance
decreasing_by
  have := threshold_pos bias place
  have := Nat.div_le_self (distance - threshold bias place) (base - threshold bias place)
  omega

/-- What has been written: the digits, the distance since then, the bias, and the number of
characters that are known. -/
structure Written where
  digits : List Char
  distance : Nat
  bias : Nat
  known : Nat

/-- Passes a character of the text on the way from one code point to the next, where those below
`n` are known. -/
def Written.pass (basic n : Nat) (w : Written) (c : Char) : Written :=
  if c.toNat < n then { w with distance := w.distance + 1 }
  else if c.toNat = n then
    { digits := w.digits ++ writeDistance w.bias base w.distance
      distance := 0
      bias := nextBias w.distance (w.known + 1) (w.known = basic)
      known := w.known + 1 }
  else w

/-- Passes the text once for each of some ascending code points, where `n` is next. -/
def Written.run (s : List Char) (basic n : Nat) (w : Written) : List Nat → Written
  | [] => w
  | m :: more =>
    let w := { w with distance := w.distance + (m - n) * (w.known + 1) }
    let w := s.foldl (Written.pass basic m) w
    Written.run s basic (m + 1) { w with distance := w.distance + 1 } more

/-- Whether a character is an ASCII one. -/
def isBasic (c : Char) : Bool := c.toNat < 0x80

/-- Writes a text. -/
def encode (s : List Char) : List Char :=
  let basic := s.filter isBasic
  let points := ((s.filter (!isBasic ·)).map Char.toNat).mergeSort.eraseDups
  let start : Written := ⟨[], 0, 72, basic.length⟩
  basic ++ (if basic = [] then [] else ['-'])
    ++ (Written.run s basic.length 0x80 start points).digits

/-! ## Reading -/

/-- How far a reading has come: the text so far, the code point and the place that were reached,
the bias, and of the number that is being read where it began, its next place and the weight of
that. -/
structure Reading where
  text : List Char
  point : Nat
  reached : Nat
  bias : Nat
  began : Nat
  place : Nat
  weight : Nat

/-- Puts in the character to which a number leads, when that is one. -/
def Reading.insert? (r : Reading) : Option Reading :=
  let count := r.text.length + 1
  let point := r.point + r.reached / count
  let spot := r.reached % count
  if point.isValidChar then
    some
      { text := r.text.take spot ++ Char.ofNat point :: r.text.drop spot
        point := point
        reached := spot + 1
        bias := nextBias (r.reached - r.began) count (r.began = 0)
        began := spot + 1
        place := base
        weight := 1 }
  else none

/-- Reads digits to the end. -/
def Reading.run (r : Reading) : List Char → Option (List Char)
  | [] => if r.place = base then some r.text else none
  | c :: rest =>
    match digit? c with
    | none => none
    | some d =>
      let t := threshold r.bias r.place
      let r := { r with reached := r.reached + d * r.weight }
      if d < t then
        match r.insert? with
        | none => none
        | some r => r.run rest
      else
        { r with place := r.place + base, weight := r.weight * (base - t) }.run rest

/-- Reads a text. -/
def decode? (s : List Char) : Option (List Char) :=
  let digits := (s.reverse.takeWhile (· ≠ '-')).reverse
  let basic := (s.take (s.length - digits.length)).dropLast
  let digits := if basic = [] then s else digits
  Reading.run ⟨basic, 0x80, 0, 72, 0, base, 1⟩ digits

end StationFinder.Text.Punycode
