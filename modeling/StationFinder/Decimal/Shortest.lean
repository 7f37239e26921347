import StationFinder.Text.Numeral

/-!
# Decimal/Shortest — the fewest decimal digits that name a binary fraction

A finite double is `m · 2^q`.  The reals that round to it form an interval around it, ends included
exactly when `m` is even; among the decimals in that interval `shortest` takes one with the fewest
digits, of those the nearest, and on a tie the one whose last digit is even.

Everything is counted in one unit, a power of ten times a quarter of the last place, in which the
double, the ends of its interval and the decimals tried are all whole numbers.
-/

namespace StationFinder.Decimal

/-- A binary fraction `m · 2^q` that is not negative. -/
structure Dyadic where
  m : Nat
  q : Int
  /-- The next double below is only half as far away as the next one above. -/
  narrowBelow : Bool

/-- The magnitude of the finite double with these bits. -/
def Dyadic.ofBits (bits : UInt64) : Dyadic :=
  let exponent := ((bits >>> 52) &&& 0x7FF).toNat
  let fraction := (bits &&& 0xFFFFFFFFFFFFF).toNat
  if exponent = 0 then ⟨fraction, -1074, false⟩
  else ⟨Nat.pow 2 52 + fraction, (exponent : Int) - 1075, fraction = 0 && exponent > 1⟩

/-- A decimal `digits · 10^exponent`. -/
structure Scaled where
  digits : Nat
  exponent : Int
deriving DecidableEq, Repr

/-- Tries ever finer grids `10^p`, the finest last, on which the value itself lies.  On each grid
the only decimals that matter are the two next to the value. -/
def pick (value low high : Nat) (closed : Bool) : Nat → Nat × Nat
  | 0 => (value, 0)
  | p + 1 =>
    let grid := Nat.pow 10 (p + 1)
    let below := value / grid
    let reads := fun d : Nat =>
      let place := 4 * (d * grid)
      if closed then low ≤ place && place ≤ high else low < place && place < high
    match reads below, reads (below + 1) with
    | true, true =>
      match compare (2 * value) ((2 * below + 1) * grid) with
      | .lt => (below, p + 1)
      | .gt => (below + 1, p + 1)
      | .eq => (if below % 2 = 0 then below else below + 1, p + 1)
    | true, false => (below, p + 1)
    | false, true => (below + 1, p + 1)
    | false, false => pick value low high closed p

/-- Moves the zeros at the end of the digits into the exponent. -/
def strip (digits : Nat) (exponent : Int) : Scaled :=
  if h : digits ≠ 0 ∧ digits % 10 = 0 then strip (digits / 10) (exponent + 1)
  else ⟨digits, exponent⟩
termination_by digits
decreasing_by omega

/-- The decimal that names a binary fraction with the fewest digits. -/
def shortest (x : Dyadic) : Scaled :=
  -- `x` is `x.m * unit` times a power of ten
  let unit := if 0 ≤ x.q then Nat.pow 2 x.q.toNat else Nat.pow 5 (-x.q).toNat
  let scale := min x.q 0
  let low := (4 * x.m - if x.narrowBelow then 1 else 2) * unit
  let high := (4 * x.m + 2) * unit
  let value := x.m * unit
  let (digits, p) :=
    pick value low high (x.m % 2 = 0) ((Text.Numeral.write value).length - 1)
  strip digits (scale + p)

/-- Where a decimal is written with its point in place, and where with an exponent. -/
structure Layout where
  /-- The least exponent of the leading digit that is written with the point in place. -/
  plainFrom : Int
  /-- The least exponent above it that is not. -/
  plainBelow : Int

/-- The text of a decimal.  A whole number ends in `.0`; an exponent has its sign and no zero in
front. -/
def Layout.write (layout : Layout) (d : Scaled) : List Char :=
  let ds := Text.Numeral.write d.digits
  let lead := (ds.length : Int) - 1 + d.exponent
  if d.digits = 0 then ['0', '.', '0']
  else if layout.plainFrom ≤ lead ∧ lead < layout.plainBelow then
    if 0 ≤ d.exponent then ds ++ List.replicate d.exponent.toNat '0' ++ ['.', '0']
    else if 0 ≤ lead then
      ds.take (lead.toNat + 1) ++ '.' :: ds.drop (lead.toNat + 1)
    else '0' :: '.' :: List.replicate (-lead - 1).toNat '0' ++ ds
  else
    let sign := if 0 ≤ lead then '+' else '-'
    let mantissa := ds.take 1 ++ if ds.length = 1 then [] else '.' :: ds.drop 1
    mantissa ++ 'e' :: sign :: Text.Numeral.write lead.natAbs

/-- The text of a finite double, with a minus sign in front where its sign bit is set. -/
def Layout.writeFloat (layout : Layout) (x : Float) : List Char :=
  let text := layout.write (shortest (Dyadic.ofBits x.toBits))
  if x.toBits >>> 63 = 1 then '-' :: text else text

end StationFinder.Decimal
