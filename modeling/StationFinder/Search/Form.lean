import StationFinder.Json.Structure
import StationFinder.Text.Blank
import StationFinder.Text.Cut
import StationFinder.Text.Form

/-!
# Search/Form — what a visitor fills in

The form has four fields, and each may be left out.  They come as the query of an address or as a
JSON structure.  In a query a field may not stand twice; what is not a field is passed over.
-/

namespace StationFinder

/-- The fields of the form, as they were filled in. -/
structure SearchForm where
  province : Option String
  municipality : Option String
  fuel : Option String
  /-- The box for stations that are open. -/
  openBox : Option String
deriving DecidableEq, Repr

/-- The names of the fields. -/
inductive FormField where
  | province
  | municipality
  | fuel
  | openBox
deriving DecidableEq, Repr

namespace FormField

/-- The fields in their order. -/
def all : List FormField := [province, municipality, fuel, openBox]

/-- The name of a field in a query. -/
def name : FormField → String
  | province => "province"
  | municipality => "municipality"
  | fuel => "fuel"
  | openBox => "open"

/-- The field with a name. -/
def ofName? (name : String) : Option FormField := all.find? (·.name = name)

end FormField

namespace SearchForm

/-- The form with nothing filled in. -/
def empty : SearchForm := ⟨none, none, none, none⟩

/-- What a field is filled in with. -/
def get (form : SearchForm) : FormField → Option String
  | .province => form.province
  | .municipality => form.municipality
  | .fuel => form.fuel
  | .openBox => form.openBox

/-- The form with a field filled in. -/
def set (form : SearchForm) (field : FormField) (value : Option String) : SearchForm :=
  match field with
  | .province => { form with province := value }
  | .municipality => { form with municipality := value }
  | .fuel => { form with fuel := value }
  | .openBox => { form with openBox := value }

/-- What a field is filled in with, without the blanks around it, unless it is blank. -/
def filled? (form : SearchForm) (field : FormField) : Option String :=
  (form.get field).bind Text.nonBlank

/-- The texts that a ticked box may come with, up to the case of the letters. -/
def tickedTexts : List String := ["on", "true", "1"]

/-- Whether a box that came with some text, or with none, is ticked. -/
def isTicked (value : Option String) : Bool :=
  value.any fun text =>
    tickedTexts.any fun ticked => Text.sameLetters (Text.trim text.toList) ticked.toList

/-- Whether only stations that are open are asked for. -/
def openNow (form : SearchForm) : Bool := isTicked form.openBox

/-! ## Requests in a query -/

/-- A field that stands twice in a query. -/
structure RepeatedField where
  field : FormField
deriving DecidableEq, Repr

/-- The text of the fault. -/
def RepeatedField.message (repeated : RepeatedField) : String :=
  (Json.Problem.repeatedField repeated.field.name).message

/-- Fills in the fields of some pairs. -/
def fill (form : SearchForm) : List (String × String) → Except RepeatedField SearchForm
  | [] => .ok form
  | (name, value) :: pairs =>
    match FormField.ofName? name with
    | none => fill form pairs
    | some field =>
      if (form.get field).isSome then .error ⟨field⟩
      else fill (form.set field (some value)) pairs

/-- Reads the query of an address. -/
def ofQuery (query : List UInt8) : Except RepeatedField SearchForm :=
  fill empty (Text.Form.decode query)

/-! ## Requests as JSON -/

/-- What is known of a form that is being read: what was given for each field, which may be
`null`. -/
abbrev Partial := FormField → Option (Option String)

/-- Reads a form.  A field that is missing from an object was not filled in. -/
def decoder : Json.Decoder SearchForm :=
  let shape : Json.Shape Partial SearchForm :=
    { name := "StationSearchRequest"
      fields := FormField.all.map fun field =>
        .place field.name (· field)
          (fun known value other => if other = field then some value else known other)
          (fun _ => Json.readString?) false
      blank := fun _ => none
      finish := fun known => .ok (FormField.all.foldl
        (fun form field => form.set field ((known field).getD none)) empty) }
  shape.decoder

end SearchForm

end StationFinder
