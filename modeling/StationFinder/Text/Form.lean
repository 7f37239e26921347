import StationFinder.Text.Numeral
import StationFinder.Text.Utf8

/-!
# Text/Form — the text of a query, as names and values

A query is a list of `name=value` pairs joined by `&`.  In it a space may be written `+`, and any
byte as `%` with two hexadecimal digits; a `%` without them stands for itself.
-/

namespace StationFinder.Text

/-- The byte `%`. -/
def percentSign : UInt8 := 0x25

/-- The value of a byte as a hexadecimal digit. -/
def hexByte? (b : UInt8) : Option Nat := Numeral.hexDigit? (Char.ofNat b.toNat)

/-- The bytes that a text stands for when `%` and two hexadecimal digits stand for one byte. -/
def percentDecode : List UInt8 → List UInt8
  | p :: a :: b :: rest =>
    match if p = percentSign then hexByte? a else none, hexByte? b with
    | some high, some low => UInt8.ofNat (16 * high + low) :: percentDecode rest
    | _, _ => p :: percentDecode (a :: b :: rest)
  | p :: rest => p :: percentDecode rest
  | [] => []

namespace Form

/-- A name or value of a query, as the text it stands for. -/
def decodePart (bs : List UInt8) : String :=
  String.ofList (Utf8.decodeLossy (percentDecode (bs.map fun b => if b = 0x2B then 0x20 else b)))

/-- The name and the value that one pair stands for; without a `=` the value is empty. -/
def decodePair (pair : List UInt8) : String × String :=
  (decodePart (pair.takeWhile (· ≠ 0x3D)), decodePart ((pair.dropWhile (· ≠ 0x3D)).drop 1))

/-- The names and values of a query, in order; empty pairs are left out. -/
def decode (query : List UInt8) : List (String × String) :=
  ((query.splitOn 0x26).filter (· ≠ [])).map decodePair

end Form

end StationFinder.Text
