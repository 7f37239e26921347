import StationFinder.Json.Reader
import StationFinder.Schedule
import StationFinder.Table

/-!
# Station — the record of a fuel station

A record is a table of texts under the field names of the price service.  It is read from a JSON
object: of a name that stands twice the last value counts, `null` is no value, and a value that is
not a string is kept as its compact text.
-/

namespace StationFinder

/-- What the price service says about a station. -/
structure Station where
  fields : Table String
deriving DecidableEq

namespace Station

/-! ## The names of the fields -/

def idKey : String := "IDEESS"
def brandKey : String := "Rótulo"
def addressKey : String := "Dirección"
def localityKey : String := "Localidad"
def municipalityKey : String := "Municipio"
def provinceKey : String := "Provincia"
def postcodeKey : String := "C.P."
def scheduleKey : String := "Horario"

/-! ## Records -/

/-- The record without fields. -/
def empty : Station := ⟨Table.empty⟩

/-- The record with a field set, in place of the value it had. -/
def set (station : Station) (key value : String) : Station := ⟨station.fields.insert key value⟩

/-- The record of some fields, the last value of a name counting. -/
def ofFields (fields : List (String × String)) : Station := ⟨Table.ofList fields⟩

/-- The value of a field. -/
def field? (station : Station) (key : String) : Option String := station.fields.get? key

/-- The value of a field, unless it is empty. -/
def filled? (station : Station) (key : String) : Option String :=
  (station.field? key).filter (· ≠ "")

/-- The price under a fuel's key, if the station sells that fuel. -/
def price? (station : Station) (fuelKey : String) : Option String := station.filled? fuelKey

/-- Whether the station sells the fuel with a key. -/
def sells (station : Station) (fuelKey : String) : Bool := (station.price? fuelKey).isSome

def id? (station : Station) : Option String := station.filled? idKey
def brand? (station : Station) : Option String := station.filled? brandKey
def address? (station : Station) : Option String := station.filled? addressKey
def locality? (station : Station) : Option String := station.filled? localityKey
def municipality? (station : Station) : Option String := station.filled? municipalityKey
def province? (station : Station) : Option String := station.filled? provinceKey
def postcode? (station : Station) : Option String := station.filled? postcodeKey

/-- The text of the opening hours, empty where there is none. -/
def hours (station : Station) : String := (station.field? scheduleKey).getD ""

/-- The opening hours. -/
def schedule (station : Station) : Schedule := Schedule.parse station.hours

/-- Whether the station is open at an instant. -/
def isOpen (station : Station) (t : Instant) : Bool := station.schedule.isOpen t

/-! ## Records as JSON -/

/-- The text of a field's value, if it has one. -/
def fieldText? : Json → Option String
  | .null => none
  | .string s => some s
  | v => some v.sorted.text

/-- The record of an object's members. -/
def ofMembers (members : List (String × Json)) : Station :=
  ⟨(Table.ofList members).filterMap fieldText?⟩

/-- Reads a record. -/
def decoder : Json.Decoder Station := fun depth s =>
  (Json.readMembers depth s).map (·.map ofMembers)

/-- A record as JSON. -/
def toJson (station : Station) : Json :=
  .object (station.fields.entries.map fun field => (field.1, .string field.2))

@[simp] theorem field?_set (station : Station) (key value name : String) :
    (station.set key value).field? name = if name = key then some value else station.field? name :=
  Table.get?_insert

@[simp] theorem field?_empty (name : String) : empty.field? name = none := rfl

theorem sells_iff {station : Station} {key : String} :
    station.sells key = true ↔ ∃ price, station.field? key = some price ∧ price ≠ "" := by
  rw [sells, price?, filled?, Option.isSome_iff_exists]
  simp only [Option.filter_eq_some_iff, decide_eq_true_eq]

end Station

end StationFinder
