import StationFinder.Text.Direction
import StationFinder.Text.Joining
import StationFinder.Text.Punycode

/-!
# Address/HostName — the names of hosts

A name is made of labels with dots between them.  It may have characters of all scripts; on the way
it goes in lower-case ASCII, where a label with others is written by `Punycode` behind `xn--`.
`HostName.normal?` gives that form, or nothing for what cannot be a name.  A label in that form
already has to be one that would come out.
-/

namespace StationFinder.HostName

/-- Whether a character cannot stand in a name, be it escaped or not: those that mean something in
an address, and those that cannot be seen. -/
def isForbidden (c : Char) : Bool :=
  c.toNat ≤ 0x20 || c.toNat = 0x7F ||
    ['%', '#', '/', ':', '<', '>', '?', '@', '[', '\\', ']', '^', '|'].contains c

/-- What stands in front of a label that is written by `Punycode`. -/
def encodedMark : List Char := ['x', 'n', '-', '-']

/-- A text with all characters folded, in its normal spelling, unless one cannot be folded. -/
def fold? (s : List Char) : Option (List Char) :=
  (s.mapM Text.fold?).map fun parts => Text.Compose.normal parts.flatten

/-- The greatest number of characters in a label that is not all ASCII. -/
def maxShown : Nat := 1000

/-- The greatest number of characters that are decoded. -/
def maxEncoded : Nat := 2000

/-- The characters of a label in its normal form. -/
def shown? (label : List Char) : Option (List Char) :=
  if encodedMark.isPrefixOf label then do
    let code := label.drop encodedMark.length
    let s ← if code.length ≤ maxEncoded then Text.Punycode.decode? code else none
    if s.any (!Text.Punycode.isBasic ·) && fold? s = some s then some s else none
  else some label

/-- Whether the characters of a label may stand side by side, and are not too many. -/
def isLabel (s : List Char) : Bool :=
  s.head?.all (!Text.isMark ·) && Text.Joining.isFit [] s && !s.any isForbidden
    && (s.all Text.Punycode.isBasic || s.length ≤ maxShown)

/-- The label for some characters. -/
def encoded (s : List Char) : List Char :=
  if s.all Text.Punycode.isBasic then s else encodedMark ++ Text.Punycode.encode s

/-- The normal form of a name in any script. -/
def normalInScripts? (s : List Char) : Option (List Char) := do
  let labels := (← fold? s).splitOn '.'
  let shown ← labels.mapM shown?
  let turns := shown.any (·.any fun c => (Text.Direction.of c).turns)
  if shown.all isLabel && (!turns || shown.all Text.Direction.isOneWay) then
    return ['.'].intercalate (shown.map encoded)
  else none

/-- The normal form of a name. -/
def normal? (s : List Char) : Option (List Char) :=
  let lower := s.map Char.toLower
  if s.all Text.Punycode.isBasic && !(lower.splitOn '.').any encodedMark.isPrefixOf then
    if lower.any isForbidden then none else some lower
  else normalInScripts? s

end StationFinder.HostName
