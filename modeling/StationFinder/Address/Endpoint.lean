import StationFinder.Text.Numeral

/-!
# Address/Endpoint — the address and port on which a server listens

An address has four numbers with dots between them, or eight groups of hexadecimal digits with
colons between them, in brackets.  In the second form one run of zero groups may be left out, the
last two groups may be written as four numbers, and a zone may follow.  `Endpoint.text` writes an
address in its shortest form, `Endpoint.parse?` reads every form.

Readings are taken from the front of a text and give what was read with the rest.
-/

namespace StationFinder

/-- An address of four bytes. -/
structure Quad where
  a : Fin 256
  b : Fin 256
  c : Fin 256
  d : Fin 256
deriving DecidableEq, Repr

/-- The address of the last bytes of four numbers. -/
def Quad.ofNat (a b c d : Nat) : Quad :=
  ⟨Fin.ofNat 256 a, Fin.ofNat 256 b, Fin.ofNat 256 c, Fin.ofNat 256 d⟩

/-- An address of eight groups of sixteen bits. -/
structure Groups where
  list : List (Fin 65536)
  length_eq : list.length = 8
deriving DecidableEq, Repr

/-- An address with a port. -/
inductive Endpoint where
  | quad (address : Quad) (port : Fin 65536)
  | groups (address : Groups) (zone : Fin 4294967296) (port : Fin 65536)
deriving DecidableEq, Repr

namespace Endpoint

/-- A reading of something at the front of a text. -/
abbrev Front (α : Type) := List Char → Option (α × List Char)

/-! ## Reading -/

/-- Reads one character. -/
def readChar (c : Char) : List Char → Option (List Char)
  | x :: s => if x = c then some s else none
  | [] => none

/-- Reads a number below `bound`, in at most `most` digits where that is given. -/
def readNumber (radix : Nat) (digit? : Char → Option Nat) (most : Option Nat) (zerosInFront : Bool)
    (bound : Nat) : Front (Fin bound) := fun s =>
  let digits := s.takeWhile fun c => (digit? c).isSome
  let value := digits.foldl (fun n c => radix * n + (digit? c).getD 0) 0
  if digits = [] ∨ most.any (· < digits.length) then none
  else if ¬ zerosInFront ∧ digits.head? = some '0' ∧ 1 < digits.length then none
  else if h : value < bound then some (⟨value, h⟩, s.drop digits.length)
  else none

/-- Reads a number in decimal. -/
def readDecimal (bound : Nat) : Front (Fin bound) :=
  readNumber 10 Text.Numeral.digit? none true bound

/-- Reads a byte in decimal, without zeros in front. -/
def readByte : Front (Fin 256) := readNumber 10 Text.Numeral.digit? (some 3) false 256

/-- Reads a group of up to four hexadecimal digits. -/
def readGroup : Front (Fin 65536) :=
  readNumber 16 Text.Numeral.hexDigit? (some 4) true 65536

/-- Reads four bytes with dots between them. -/
def readQuad : Front Quad := fun s => do
  let (a, s) ← readByte s
  let (b, s) ← readChar '.' s >>= readByte
  let (c, s) ← readChar '.' s >>= readByte
  let (d, s) ← readChar '.' s >>= readByte
  return (⟨a, b, c, d⟩, s)

/-- The two groups that four bytes make. -/
def quadGroups (q : Quad) : List (Fin 65536) :=
  [⟨256 * q.a + q.b, by have := q.a.isLt; have := q.b.isLt; omega⟩,
    ⟨256 * q.c + q.d, by have := q.c.isLt; have := q.d.isLt; omega⟩]

/-- Reads groups with colons between them, `room` of them at most, and says whether the last two
were written as four bytes; nothing can follow those. -/
def readGroups : (room : Nat) → (first : Bool) → List Char → List (Fin 65536) × Bool × List Char
  | 0, _, s => ([], false, s)
  | room + 1, first, s =>
    let start := if first then some s else readChar ':' s
    match if room = 0 then none else start >>= readQuad with
    | some (q, rest) => (quadGroups q, true, rest)
    | none =>
      match start >>= readGroup with
      | none => ([], false, s)
      | some (g, rest) =>
        let (gs, asBytes, rest) := readGroups room false rest
        (g :: gs, asBytes, rest)

/-- Eight groups, if there are eight. -/
def ofList? (gs : List (Fin 65536)) : Option Groups :=
  if h : gs.length = 8 then some ⟨gs, h⟩ else none

/-- Reads an address of groups.  Where two colons stand side by side, zero groups fill it up. -/
def readAddress : Front Groups := fun s =>
  let (head, asBytes, rest) := readGroups 8 true s
  if head.length = 8 then (ofList? head).map (·, rest)
  else if asBytes then none
  else do
    let rest ← readChar ':' rest >>= readChar ':'
    let (tail, _, rest) := readGroups (7 - head.length) true rest
    let zeros := List.replicate (8 - head.length - tail.length) 0
    let address ← ofList? (head ++ zeros ++ tail)
    return (address, rest)

/-- Reads the port behind a colon. -/
def readPort : Front (Fin 65536) := fun s => readChar ':' s >>= readDecimal 65536

/-- Reads an address of four bytes and its port. -/
def readQuadEndpoint : Front Endpoint := fun s => do
  let (address, s) ← readQuad s
  let (port, s) ← readPort s
  return (quad address port, s)

/-- Reads an address of groups in brackets, with a zone or without, and its port. -/
def readGroupsEndpoint : Front Endpoint := fun s => do
  let (address, s) ← readChar '[' s >>= readAddress
  let (zone, s) := (readChar '%' s >>= readDecimal 4294967296).getD (0, s)
  let (port, s) ← readChar ']' s >>= readPort
  return (groups address zone port, s)

/-- Reads a whole text. -/
def parse? (s : String) : Option Endpoint :=
  match readQuadEndpoint s.toList <|> readGroupsEndpoint s.toList with
  | some (endpoint, []) => some endpoint
  | _ => none

/-! ## Writing -/

/-- Writes four bytes. -/
def writeQuad (q : Quad) : List Char :=
  ['.'].intercalate ([q.a, q.b, q.c, q.d].map fun (n : Fin 256) => Text.Numeral.write n)

/-- Writes groups with colons between them. -/
def writeGroups (gs : List (Fin 65536)) : List Char :=
  [':'].intercalate (gs.map fun (g : Fin 65536) => Text.Numeral.writeHex g)

/-- How many zero groups stand at the front. -/
def zerosInFront (gs : List (Fin 65536)) : Nat := (gs.takeWhile (· = 0)).length

/-- Where the first of the longest runs of zero groups begins, and its length. -/
def longestZeros (gs : List (Fin 65536)) : Nat × Nat :=
  (List.range gs.length).foldl
    (fun best i =>
      let length := zerosInFront (gs.drop i)
      if best.2 < length then (i, length) else best)
    (0, 0)

/-- The four bytes that the last two groups make. -/
def lastQuad (g h : Fin 65536) : Quad :=
  ⟨⟨g / 256, by have := g.isLt; omega⟩, ⟨g % 256, by omega⟩,
    ⟨h / 256, by have := h.isLt; omega⟩, ⟨h % 256, by omega⟩⟩

/-- Writes an address of groups.  The longest run of zeros is left out if it has two or more. -/
def writeGroupAddress (address : Groups) : List Char :=
  let (start, length) := longestZeros address.list
  if 1 < length then
    writeGroups (address.list.take start) ++ [':', ':']
      ++ writeGroups (address.list.drop (start + length))
  else writeGroups address.list

/-- Writes an address of groups, where four bytes behind the group `ffff` are written as such. -/
def writeAddress (address : Groups) : List Char :=
  match address.list with
  | [0, 0, 0, 0, 0, 65535, g, h] =>
    [':', ':', 'f', 'f', 'f', 'f', ':'] ++ writeQuad (lastQuad g h)
  | _ => writeGroupAddress address

/-- Writes an address and its port; the zone is left out where it is zero. -/
def write : Endpoint → List Char
  | quad address port => writeQuad address ++ ':' :: Text.Numeral.write port
  | groups address zone port =>
    let zone := if zone = 0 then [] else '%' :: Text.Numeral.write zone
    '[' :: writeAddress address ++ zone ++ ']' :: ':' :: Text.Numeral.write port

/-- An address and its port as a string. -/
def text (endpoint : Endpoint) : String := String.ofList endpoint.write

end Endpoint

end StationFinder
