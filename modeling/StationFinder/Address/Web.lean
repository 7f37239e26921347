import StationFinder.Address.Host
import StationFinder.Text.Cut

/-!
# Address/Web — the addresses to which requests go

An address has a scheme, mostly a host, and a path with what follows it.  `WebAddress.parse?`
takes an address apart and refuses what is none; `WebAddress.text` writes it in its normal form:
the scheme in lower case, the host as `Host` has it, no port where it is the usual one, no `.` and
`..` in the path, and the characters escaped that may not stand where they are.

The schemes fall into three groups.  Those of the web always have a host, and a backslash is a slash
for them; addresses of files are like them, but their host is often left out; for all others an
address may have a host, a path without one, or be any text.
-/

namespace StationFinder

/-- The groups of schemes. -/
inductive SchemeKind where
  | web
  | file
  | other
deriving DecidableEq, Repr

/-- Who sends a request to whom: the name and password, and the host with its port. -/
structure Authority where
  /-- A name, escaped. -/
  user : List Char
  /-- A password, escaped. -/
  password : List Char
  host : Option Host
  /-- The port, unless it is the usual one. -/
  port : Option Nat
deriving DecidableEq, Repr

/-- An address, taken apart. -/
structure WebAddress where
  scheme : List Char
  authority : Option Authority
  path : List Char
  /-- What follows the path. -/
  tail : List Char
deriving DecidableEq, Repr

namespace SchemeKind

/-- The schemes of the web with their usual ports. -/
def usualPorts : List (String × Nat) :=
  [("http", 80), ("https", 443), ("ws", 80), ("wss", 443), ("ftp", 21)]

/-- The group of a scheme. -/
def of (scheme : List Char) : SchemeKind :=
  if String.ofList scheme = "file" then file
  else if (usualPorts.lookup (String.ofList scheme)).isSome then web
  else other

/-- Whether a character divides the path in addresses of a group of schemes. -/
def isSlash (kind : SchemeKind) (c : Char) : Bool := c = '/' || (c = '\\' && kind ≠ other)

/-- Whether a character begins what follows the path. -/
def isTail (c : Char) : Bool := c = '?' || c = '#'

end SchemeKind

namespace Authority

/-- An authority with no parts. -/
def empty : Authority := ⟨[], [], none, none⟩

/-- Writes an authority. -/
def write (authority : Authority) : List Char :=
  let password := if authority.password = [] then [] else ':' :: authority.password
  let user := authority.user ++ password
  let host := (authority.host.map Host.write).getD []
  let port := (authority.port.map fun port => ':' :: Text.Numeral.write port).getD []
  (if user = [] then [] else user ++ ['@']) ++ host ++ port

/-- The characters that are escaped in names and passwords. -/
def escapedInUser : List Char :=
  [' ', '"', '<', '>', '\x60', '#', '?', '\x7b', '\x7d', '/', ':', ';', '=', '@', '[', '\\', ']',
    '^', '|']

/-- A text divided at the last place where a character stands. -/
def cutAtLast? (sep : Char) (s : List Char) : Option (List Char × List Char) :=
  (Text.cutAt? sep s.reverse).map fun (after, before) => (before.reverse, after.reverse)

/-- The host at the front, up to a colon that does not stand in brackets, and the rest. -/
def takeHost (inBrackets : Bool) : List Char → List Char × List Char
  | [] => ([], [])
  | c :: s =>
    if c = ':' && !inBrackets then ([], c :: s)
    else
      let (host, rest) := takeHost (c = '[' || (inBrackets && c ≠ ']')) s
      (c :: host, rest)

/-- Reads the port of a scheme from what stands behind the host.  Outside the web a backslash may
follow, with which the path begins. -/
def parsePort? (scheme : List Char) : List Char → Option (Option Nat × List Char)
  | [] => some (none, [])
  | _ :: s =>
    let rest := s.dropWhile Text.Numeral.isDigit
    let port := Text.Numeral.value? (s.takeWhile Text.Numeral.isDigit)
    if rest.head?.any (· ≠ '\\') || port.any (65535 < ·) then none
    else if port = SchemeKind.usualPorts.lookup (String.ofList scheme) then some (none, rest)
    else some (port, rest)

/-- The name and the password, and what stands behind them. -/
def takeLogin? (s : List Char) : Option ((List Char × List Char) × List Char) :=
  match cutAtLast? '@' s with
  | none => some (([], []), s)
  | some ([], []) => none
  | some (login, rest) => some ((Text.cutAt? ':' login).getD (login, []), rest)

/-- Reads what stands behind the two slashes, for a scheme that is not that of files, and gives what
is left over.  Only outside the web the host may be missing, and then nothing else may be there. -/
def parse? (scheme : List Char) (s : List Char) : Option (Authority × List Char) := do
  let ((user, password), behind) ← takeLogin? s
  let (hostText, portText) := takeHost false behind
  let host ←
    if SchemeKind.of scheme = .web then (Host.parse? hostText).map some
    else if hostText ≠ [] then (Host.parsePlain? hostText).map some
    else if user = [] && password = [] && portText = [] then some none
    else none
  let (port, rest) ← parsePort? scheme portText
  let user := Host.escape escapedInUser user
  return (⟨user, Host.escape escapedInUser password, host, port⟩, rest)

end Authority

namespace WebAddress

/-! ## Breaks -/

/-- Whether a character is a tab or ends a line. -/
def isBreak (c : Char) : Bool := c = '\t' || c = '\n' || c = '\r'

/-- A text without its breaks. -/
def withoutBreaks (s : List Char) : List Char := s.filter (!isBreak ·)

/-- The address of a file without a number of slashes in front, between which there may be breaks,
if it begins with as many. -/
def dropSlashes? : Nat → List Char → Option (List Char)
  | 0, s => some s
  | _ + 1, [] => none
  | n + 1, c :: s =>
    if isBreak c then dropSlashes? (n + 1) s
    else if SchemeKind.file.isSlash c then dropSlashes? n s
    else none

/-! ## Paths -/

/-- The characters that are escaped in paths. -/
def escapedInPath : List Char := [' ', '"', '<', '>', '\x60', '#', '?', '\x7b', '\x7d']

/-- Whether a segment stands for the one above it. -/
def isUp (segment : List Char) : Bool :=
  ["..", "%2e.", ".%2e", "%2e%2e"].contains (String.ofList (segment.map Char.toLower))

/-- Whether a segment stands for the one where it is. -/
def isHere (segment : List Char) : Bool :=
  [".", "%2e"].contains (String.ofList (segment.map Char.toLower))

/-- Whether a segment begins like the name of a drive. -/
def startsDrive : List Char → Bool
  | letter :: mark :: rest =>
    letter.isAlpha && (mark = ':' || mark = '|') && rest.head?.all (· = '\\')
  | _ => false

/-- Whether a segment is the name of a drive. -/
def isDrive (segment : List Char) : Bool := startsDrive segment && segment.length = 2

/-- The segments above the last one, which is in front; a drive stays. -/
def above : List (List Char) → List (List Char)
  | [] => []
  | segment :: rest => if startsDrive segment then segment :: rest else rest

/-- The segments of a path as far as they have been read, the last one in front, and whether the
first one names a drive where a host could be. -/
structure Trail where
  segments : List (List Char)
  hasDrive : Bool

/-- Adds a segment to a path; `last` when no other follows. -/
def Trail.add (kind : SchemeKind) (last : Bool) (trail : Trail) (segment : List Char) : Trail :=
  let done := trail.segments
  if isUp segment then { trail with segments := if last then [] :: above done else above done }
  else if isHere segment then { trail with segments := if last then [] :: done else done }
  else if kind = .file && done = [] && isDrive segment then
    ⟨[[segment.head?.getD ' ', ':']], true⟩
  else { trail with segments := segment :: done }

/-- The name of a drive and what follows it, when there is a break between them. -/
def cutBehindDrive? (s : List Char) : Option (List Char × List Char) :=
  match withoutBreaks s, s.dropWhile (· ≠ ':') with
  | letter :: ':' :: c :: rest, _ :: b :: _ =>
    if letter.isAlpha && isBreak b then some ([letter, ':'], c :: rest) else none
  | _, _ => none

/-- Adds a segment in which there may be breaks.  They do not count, but one behind the name of a
drive with which the path of a file begins divides it from the rest, which is taken as it is. -/
def Trail.addBroken (kind : SchemeKind) (last : Bool) (trail : Trail) (s : List Char) : Trail :=
  match if kind = .file && trail.segments = [] then cutBehindDrive? s else none with
  | some (drive, rest) =>
    { trail with segments := [Host.escape escapedInPath rest, drive] }
  | none => trail.add kind last (Host.escape escapedInPath (withoutBreaks s))

/-- Adds segments, without `.` and `..`. -/
def Trail.addAll (kind : SchemeKind) (trail : Trail) : List (List Char) → Trail
  | [] => trail
  | [s] => trail.addBroken kind true s
  | s :: more => (trail.addBroken kind false s).addAll kind more

/-- The path in a text without the slash in front. -/
def Trail.of (kind : SchemeKind) (s : List Char) : Trail :=
  let slashed := s.map fun c => if kind.isSlash c then '/' else c
  Trail.addAll kind ⟨[], false⟩ (slashed.splitOn '/')

/-- Writes a path. -/
def writePath (segments : List (List Char)) : List Char := segments.flatMap ('/' :: ·)

/-- Writes the path that was read. -/
def Trail.write (trail : Trail) : List Char := writePath trail.segments.reverse

/-- A path behind a host, or in its place.  That of a scheme of the web is not empty. -/
def pathBehindHost (kind : SchemeKind) (s : List Char) : List Char :=
  match s with
  | [] => if kind = .other then [] else ['/']
  | c :: rest => (Trail.of kind (if kind.isSlash c then rest else s)).write

/-- The path of a file, which begins with one slash, with a drive in it or not. -/
def filePath (s : List Char) : List Char × Bool :=
  let trail := Trail.of .file ((dropSlashes? 1 s).getD s)
  let path := trail.segments.reverse.dropWhile (· = [])
  (if path = [] then ['/'] else writePath path, trail.hasDrive)

/-! ## What follows the path -/

/-- The characters that are escaped in queries. -/
def escapedInQuery (kind : SchemeKind) : List Char :=
  [' ', '"', '#', '<', '>'] ++ if kind = .other then [] else ['\'']

/-- The characters that are escaped in fragments. -/
def escapedInFragment : List Char := [' ', '"', '<', '>', '\x60']

/-- What follows the path, in its normal form. -/
def normalTail (kind : SchemeKind) (s : List Char) : List Char :=
  let query := s.takeWhile (· ≠ '#')
  let fragment := s.dropWhile (· ≠ '#')
  let queryText := match query with
    | [] => []
    | mark :: query => mark :: Host.escape (escapedInQuery kind) query
  let fragmentText := match fragment with
    | [] => []
    | mark :: fragment => mark :: Host.escape escapedInFragment fragment
  queryText ++ fragmentText

/-! ## Addresses -/

/-- Whether a character may stand in a scheme, behind its first letter. -/
def isSchemeChar (c : Char) : Bool := c.isAlphanum || c = '+' || c = '-' || c = '.'

/-- Takes a scheme and its colon from the front of an address. -/
def takeScheme? (s : List Char) : Option (List Char × List Char) := do
  let (front, rest) ← Text.cutAt? ':' s
  match withoutBreaks front with
  | c :: cs =>
    if c.isAlpha && cs.all isSchemeChar then return ((c :: cs).map Char.toLower, rest) else none
  | [] => none

/-- A text without the spaces and control characters at its ends. -/
def withoutPadding (s : List Char) : List Char :=
  let isPadding (c : Char) : Bool := c.toNat ≤ 0x20
  ((s.dropWhile isPadding).reverse.dropWhile isPadding).reverse

/-- Reads the rest of an address with a host, from behind the slashes. -/
def parseHosted? (scheme : List Char) (rest tail : List Char) : Option WebAddress := do
  let kind := SchemeKind.of scheme
  let (authority, left) ← Authority.parse? scheme (rest.takeWhile (!kind.isSlash ·))
  let path := left ++ rest.dropWhile (!kind.isSlash ·)
  return ⟨scheme, some authority, pathBehindHost kind path, normalTail kind tail⟩

/-- The address of a file. -/
def ofFile (host : Option Host) (path tail : List Char) : WebAddress where
  scheme := "file".toList
  authority := some { Authority.empty with host := host }
  path := path
  tail := normalTail .file tail

/-- Reads what stands behind the two slashes in the address of a file.  A host that is this computer
is left out, and so is one in front of a drive. -/
def parseFileHost? (s tail : List Char) : Option WebAddress :=
  let hostText := withoutBreaks (s.takeWhile (!SchemeKind.file.isSlash ·))
  let behind := s.dropWhile (!SchemeKind.file.isSlash ·)
  if hostText = [] || isDrive hostText then some (ofFile none (filePath s).1 tail)
  else (Host.parse? hostText).map fun host =>
    if host = .name "localhost".toList then ofFile none (filePath behind).1 tail
    else
      let (path, hasDrive) := filePath behind
      ofFile (if hasDrive then none else some host) path tail

/-- Reads the rest of the address of a file. -/
def parseFile? (rest tail : List Char) : Option WebAddress :=
  match dropSlashes? 2 rest with
  | some s => parseFileHost? s tail
  | none => some (ofFile none (filePath rest).1 tail)

/-- Reads the rest of an address of another scheme. -/
def parseOther? (scheme : List Char) (rest tail : List Char) : Option WebAddress :=
  match rest with
  | '/' :: '/' :: s => parseHosted? scheme s tail
  | '/' :: s =>
    some ⟨scheme, none, (Trail.of .other s).write, normalTail .other tail⟩
  | s => some ⟨scheme, none, Host.escape [] s, normalTail .other tail⟩

/-- Takes an address apart. -/
def parse? (url : String) : Option WebAddress := do
  let (scheme, behind) ← takeScheme? (withoutPadding url.toList)
  let rest := behind.takeWhile (!SchemeKind.isTail ·)
  let tail := withoutBreaks (behind.dropWhile (!SchemeKind.isTail ·))
  match SchemeKind.of scheme with
  | .web => parseHosted? scheme ((withoutBreaks rest).dropWhile SchemeKind.web.isSlash) tail
  | .file => parseFile? rest tail
  | .other => parseOther? scheme (withoutBreaks rest) tail

/-- An address in its normal form.  A path that would look like a host has a `.` in front. -/
def text (address : WebAddress) : String :=
  let front := match address.authority with
    | some authority => '/' :: '/' :: authority.write
    | none => if ['/', '/'].isPrefixOf address.path then ['/', '.'] else []
  String.ofList (address.scheme ++ ':' :: front ++ address.path ++ address.tail)

/-- Whether an escaped text can be read. -/
def isReadable (s : List Char) : Bool :=
  (Text.Utf8.decode? (Text.percentDecode (Text.Utf8.encode s))).isSome

/-- The address without the name and the password, which a request carries elsewhere.  They stay
where they cannot be read. -/
def withoutLogin (address : WebAddress) : WebAddress :=
  match address.authority with
  | some authority =>
    let isGiven := authority.user ≠ [] || (authority.password ≠ [] && isReadable authority.password)
    if isReadable authority.user && isGiven then
      { address with authority := some { authority with user := [], password := [] } }
    else address
  | none => address

/-- The longest address to which a request can be sent. -/
def maxLength : Nat := 65534

/-- The characters in a host to which no request can be sent. -/
def unreachableChars : List Char := ['"', '\x60', '\x7b', '\x7d']

/-- Whether requests can be sent to a host. -/
def isReachableHost (host : Host) : Bool := host.write.all fun c => !unreachableChars.contains c

/-- Whether a request can be sent to an address. -/
def isReachable (address : WebAddress) : Bool :=
  (String.ofList address.scheme = "http" || String.ofList address.scheme = "https")
    && (address.authority.bind (·.host)).any isReachableHost
    && address.text.length ≤ maxLength

end WebAddress

end StationFinder
