import StationFinder.Address.Endpoint
import StationFinder.Address.HostName
import StationFinder.Text.Form

/-!
# Address/Host — the hosts that addresses name

A host has a name or a number.  A number may have four bytes, of which the last one written fills up
the rest and any may be in base 8 or 16; or it has groups, in brackets.  `Host.parse?` reads the
hosts of the schemes of the web, `Host.parsePlain?` those of other schemes, whose names mean nothing
here and are only escaped.
-/

namespace StationFinder

/-- A host. -/
inductive Host where
  | name (name : List Char)
  | quad (address : Quad)
  | groups (address : Groups)
deriving DecidableEq, Repr

namespace Host

/-! ## Escapes -/

/-- A byte as `%` and two digits. -/
def escapeByte (b : UInt8) : List Char :=
  '%' :: [b.toNat / 16, b.toNat % 16].map fun n => (Text.Numeral.hexDigitChar n).toUpper

/-- A text where each character is escaped that is among some, or is none that can be seen, or is
beyond ASCII. -/
def escape (also : List Char) (s : List Char) : List Char :=
  s.flatMap fun c =>
    if c.toNat < 0x20 || 0x7E < c.toNat || also.contains c then
      (Text.Utf8.encode [c]).flatMap escapeByte
    else [c]

/-! ## Four bytes -/

/-- The number that some digits stand for in a base. -/
def numberIn? (radix : Nat) (digits : List Char) : Option Nat :=
  digits.foldl
    (fun n c => do
      let d ← Text.Numeral.hexDigit? c
      if d < radix then return radix * (← n) + d else none)
    (some 0)

/-- A number in base 16 behind `0x`, in base 8 behind `0`, or in base 10. -/
def number? : List Char → Option Nat
  | [] => none
  | '0' :: 'x' :: digits | '0' :: 'X' :: digits => numberIn? 16 digits
  | ['0'] => some 0
  | '0' :: digits => numberIn? 8 digits
  | digits => numberIn? 10 digits

/-- The parts between the dots, without an empty one at the end. -/
def dottedParts (s : List Char) : List (List Char) :=
  let parts := s.splitOn '.'
  if 1 < parts.length ∧ parts.getLast? = some [] then parts.dropLast else parts

/-- Whether a name is meant as a number. -/
def endsInNumber (s : List Char) : Bool :=
  ((dottedParts s).getLast?).any fun part =>
    (part ≠ [] && part.all Text.Numeral.isDigit) || (number? part).isSome

/-- Four bytes, of which the last number fills up those that are left. -/
def ofNumbers? (numbers : List Nat) : Option Quad :=
  let firsts := numbers.dropLast
  let last := numbers.getLast?.getD 0
  if firsts.length < 4 && firsts.all (· < 256) && last < Nat.pow 256 (4 - firsts.length) then
    let n := firsts.zipIdx.foldl (fun n (byte, i) => n + byte * Nat.pow 256 (3 - i)) last
    some (.ofNat (n / Nat.pow 256 3) (n / Nat.pow 256 2) (n / 256) n)
  else none

/-- Reads four bytes. -/
def parseQuad? (s : List Char) : Option Quad := (dottedParts s).mapM number? >>= ofNumbers?

/-! ## Hosts -/

/-- Reads groups behind the opening bracket. -/
def parseGroups? (s : List Char) : Option Host :=
  match Endpoint.readAddress s with
  | some (address, [']']) => some (groups address)
  | _ => none

/-- Reads a name that may be escaped, or four bytes. -/
def parseName? (s : List Char) : Option Host := do
  let written ← Text.Utf8.decode? (Text.percentDecode (Text.Utf8.encode s))
  let normal ← HostName.normal? written
  if normal = [] then none
  else if endsInNumber normal then (parseQuad? normal).map quad
  else some (name normal)

/-- Reads a host of a scheme of the web. -/
def parse? : List Char → Option Host
  | '[' :: s => parseGroups? s
  | s => parseName? s

/-- Whether a character cannot stand in a name outside the web. -/
def isForbiddenPlain (c : Char) : Bool :=
  ['\x00', '\t', '\n', '\r', ' ', '#', '/', ':', '<', '>', '?', '@', '[', '\\', ']', '^',
    '|'].contains c

/-- Reads a host of another scheme; it may be empty. -/
def parsePlain? : List Char → Option Host
  | '[' :: s => parseGroups? s
  | s => if s.any isForbiddenPlain then none else some (name (escape [] s))

/-- Writes a host. -/
def write : Host → List Char
  | name s => s
  | quad address => Endpoint.writeQuad address
  | groups address => '[' :: Endpoint.writeGroupAddress address ++ [']']

end Host

end StationFinder
