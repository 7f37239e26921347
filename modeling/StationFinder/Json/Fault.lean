import StationFinder.Json.Value
import StationFinder.Text.Quoted
import StationFinder.Text.Utf8

/-!
# Json/Fault — why and where a text is not the JSON that was asked for

A problem is either one of syntax, where the text is no JSON, or one of data, where it is JSON of
another shape.  A reading stops at the first problem in the order of the text (`Stop`), and what is
told of it is a fault: the problem with its place.  Places are counted in bytes.
-/

namespace StationFinder.Json

/-- What a text holds at a place where something else is wanted. -/
inductive Found where
  | null
  | bool (b : Bool)
  | number (n : Number)
  | string (s : String)
  | sequence
  | map

/-- Why a reading stopped. -/
inductive Problem where
  /-- The text ends where a value is due. -/
  | endInValue
  /-- The text ends within an array. -/
  | endInList
  /-- The text ends within an object. -/
  | endInObject
  /-- The text ends within a string. -/
  | endInString
  /-- No value begins here. -/
  | noValue
  /-- A word other than `null`, `true` and `false`. -/
  | badWord
  | noColon
  /-- Neither a comma nor the end follows an item of an array. -/
  | noCommaInList
  /-- Neither a comma nor the end follows a member of an object. -/
  | noCommaInObject
  /-- A comma with nothing after it. -/
  | trailingComma
  /-- Something stands after the value. -/
  | trailingText
  /-- A member of an object does not begin with a string. -/
  | keyNotString
  | badNumber
  | badEscape
  /-- The second half of a pair of surrogates is missing. -/
  | halfPair
  /-- The second half of a pair of surrogates stands alone, or a first half follows a first half. -/
  | lonePair
  /-- A character below the space within a string. -/
  | controlCharacter
  /-- The number is beyond the greatest double. -/
  | numberTooLarge
  /-- Arrays and objects are nested too deep. -/
  | tooDeep
  /-- Another shape than the wanted one. -/
  | wrongShape (found : Found) (wanted : String)
  | missingField (name : String)
  | repeatedField (name : String)
  /-- An array with this many items stands for a structure that has more fields. -/
  | tooShort (items : Nat) (wanted : String)
  /-- A value of the right shape that is refused for what it says. -/
  | refused (reason : String)

/-- A number in the words of a message. -/
def Number.describe : Number → String
  | .whole n => "integer `" ++ String.ofList (Number.whole n).write ++ "`"
  | .double x => "floating point `" ++ String.ofList (Number.double x).write ++ "`"

/-- What was found, in the words of a message. -/
def Found.describe : Found → String
  | .null => "null"
  | .bool true => "boolean `true`"
  | .bool false => "boolean `false`"
  | .number n => n.describe
  | .string s => "string " ++ Text.Quoted.quoted s
  | .sequence => "sequence"
  | .map => "map"

/-- The text of a problem. -/
def Problem.message : Problem → String
  | endInValue => "EOF while parsing a value"
  | endInList => "EOF while parsing a list"
  | endInObject => "EOF while parsing an object"
  | endInString => "EOF while parsing a string"
  | noValue => "expected value"
  | badWord => "expected ident"
  | noColon => "expected `:`"
  | noCommaInList => "expected `,` or `]`"
  | noCommaInObject => "expected `,` or `\x7d`"
  | trailingComma => "trailing comma"
  | trailingText => "trailing characters"
  | keyNotString => "key must be a string"
  | badNumber => "invalid number"
  | badEscape => "invalid escape"
  | halfPair => "unexpected end of hex escape"
  | lonePair => "lone leading surrogate in hex escape"
  | controlCharacter => "control character (\\u0000-\\u001F) found while parsing a string"
  | numberTooLarge => "number out of range"
  | tooDeep => "recursion limit exceeded"
  | wrongShape found wanted => "invalid type: " ++ found.describe ++ ", expected " ++ wanted
  | missingField name => "missing field `" ++ name ++ "`"
  | repeatedField name => "duplicate field `" ++ name ++ "`"
  | tooShort items wanted =>
    "invalid length " ++ String.ofList (Text.Numeral.write items) ++ ", expected " ++ wanted
  | refused reason => reason

/-! ## Places -/

/-- A place in a text: its line, from 1 on, and the bytes of that line in front of it. -/
structure Place where
  line : Nat
  column : Nat
deriving DecidableEq, Repr

/-- The byte that ends a line. -/
def lineEnd : UInt8 := 10

/-- The place behind some bytes. -/
def Place.behind (bytes : List UInt8) : Place where
  line := (bytes.filter (· = lineEnd)).length + 1
  column := (bytes.reverse.takeWhile (· ≠ lineEnd)).length

/-- Where a reading stopped. -/
inductive Stop where
  /-- At the place of the problem, which has so many bytes behind it. -/
  | placed (problem : Problem) (left : Nat)
  /-- Behind a value that was read and then refused.  The place is not known before the value around
  it is left. -/
  | pending (problem : Problem) (rest : List Char)

namespace Stop

/-- A problem in front of what is left. -/
def before (problem : Problem) (rest : List Char) : Stop :=
  placed problem (Text.Utf8.byteLength rest)

/-- A problem with the first byte of what is left. -/
def upon (problem : Problem) (rest : List Char) : Stop :=
  placed problem (Text.Utf8.byteLength rest - 1)

/-- A problem where nothing is left. -/
def atEnd (problem : Problem) : Stop := placed problem 0

end Stop

/-- What is told of a text that cannot be read. -/
structure Fault where
  problem : Problem
  /-- The place of the problem, unless a value was refused that has none around it. -/
  place : Option Place

/-- What is told of a reading that stopped. -/
def Stop.fault (text : List Char) : Stop → Fault
  | placed problem left =>
    let bytes := Text.Utf8.encode text
    ⟨problem, some (.behind (bytes.take (bytes.length - left)))⟩
  | pending problem _ => ⟨problem, none⟩

/-- The text of a fault. -/
def Fault.message (fault : Fault) : String :=
  let number (n : Nat) := String.ofList (Text.Numeral.write n)
  fault.problem.message ++ match fault.place with
    | none => ""
    | some place => " at line " ++ number place.line ++ " column " ++ number place.column

end StationFinder.Json
