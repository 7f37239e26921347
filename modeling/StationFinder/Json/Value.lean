import StationFinder.Decimal.Shortest
import StationFinder.Table

/-!
# Json/Value — JSON values and their compact text

A value keeps the members of an object in the order of its text, repeated keys included.
`Json.sorted` is the same value with the members of every object in ascending order of the keys, the
last member of a key deciding; `Json.write` is the text, without blanks.
-/

namespace StationFinder

namespace Json

/-- A number: whole where its text is and the 64-bit integers, signed or unsigned, have it. -/
inductive Number where
  | whole (n : Int)
  | double (x : Float)

/-- Doubles keep their point in place between `0.00001` and `10^16`. -/
def Number.layout : Decimal.Layout where
  plainFrom := -5
  plainBelow := 16

/-- The text of a number. -/
def Number.write : Number → List Char
  | .whole n =>
    if n < 0 then '-' :: Text.Numeral.write n.natAbs else Text.Numeral.write n.natAbs
  | .double x => Number.layout.writeFloat x

/-- A character as it stands in a string: a quote, a backslash and the characters below the space
are escaped, all others stand for themselves. -/
def escape (c : Char) : List Char :=
  if c = '"' then ['\\', '"']
  else if c = '\\' then ['\\', '\\']
  else if c = '\x08' then ['\\', 'b']
  else if c = '\x0c' then ['\\', 'f']
  else if c = '\n' then ['\\', 'n']
  else if c = '\r' then ['\\', 'r']
  else if c = '\t' then ['\\', 't']
  else if c.toNat < 0x20 then
    ['\\', 'u', '0', '0', Text.Numeral.hexDigitChar (c.toNat / 16),
      Text.Numeral.hexDigitChar (c.toNat % 16)]
  else [c]

/-- The text of a string. -/
def writeString (s : String) : List Char := '"' :: s.toList.flatMap escape ++ ['"']

end Json

/-- A JSON value. -/
inductive Json where
  | null
  | bool (b : Bool)
  | number (n : Json.Number)
  | string (s : String)
  | array (items : List Json)
  /-- The members in the order of the text. -/
  | object (members : List (String × Json))

namespace Json

mutual

/-- The value with the members of every object ascending, the last member of a key deciding. -/
def sorted : Json → Json
  | array items => array (sortedItems items)
  | object members => object (Entries.ofList (sortedMembers members))
  | null => null
  | bool b => bool b
  | number n => number n
  | string s => string s

def sortedItems : List Json → List Json
  | [] => []
  | v :: vs => v.sorted :: sortedItems vs

def sortedMembers : List (String × Json) → List (String × Json)
  | [] => []
  | (k, v) :: ms => (k, v.sorted) :: sortedMembers ms

end

mutual

/-- The text of a value, without blanks. -/
def write : Json → List Char
  | null => ['n', 'u', 'l', 'l']
  | bool true => ['t', 'r', 'u', 'e']
  | bool false => ['f', 'a', 'l', 's', 'e']
  | number n => n.write
  | string s => writeString s
  | array items => '[' :: writeItems items
  | object members => '\x7b' :: writeMembers members

/-- The items of an array with what stands after them. -/
def writeItems : List Json → List Char
  | [] => [']']
  | [v] => v.write ++ [']']
  | v :: vs => v.write ++ ',' :: writeItems vs

/-- The members of an object with what stands after them. -/
def writeMembers : List (String × Json) → List Char
  | [] => ['\x7d']
  | [(k, v)] => writeString k ++ ':' :: v.write ++ ['\x7d']
  | (k, v) :: ms => writeString k ++ ':' :: v.write ++ ',' :: writeMembers ms

end

/-- The text of a value as a string. -/
def text (v : Json) : String := String.ofList v.write

/-- A text where there is one, and `null` where there is none. -/
def ofText? : Option String → Json
  | some s => string s
  | none => null

theorem sortedItems_eq_map (vs : List Json) : sortedItems vs = vs.map sorted := by
  induction vs with
  | nil => rfl
  | cons v vs ih => rw [sortedItems, ih, List.map_cons]

theorem sortedMembers_eq_map (ms : List (String × Json)) :
    sortedMembers ms = ms.map fun m => (m.1, m.2.sorted) := by
  induction ms with
  | nil => rfl
  | cons m ms ih => rw [sortedMembers, ih, List.map_cons]

end Json

end StationFinder
