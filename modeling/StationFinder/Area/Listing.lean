import StationFinder.Area
import StationFinder.Event
import StationFinder.Json.Structure

/-!
# Area/Listing — areas as JSON, and the entries of the price service's listings

An area is written with its `id` and its `name`; an id is read from a string that has to be one.
The price service has keys of its own, and nothing it says of an id is trusted: `Listing.areas`
keeps the entries whose id, trimmed, is one, and `Listing.dropped` tells of the others.
-/

namespace StationFinder

variable {kind : AreaKind}

namespace AreaId

/-- An id as JSON. -/
def toJson (id : AreaId kind) : Json := .string id.text

/-- Reads an id. -/
def decoder : Json.Decoder (AreaId kind) := fun _ s => do
  let text ← Json.readString s
  match parse text.value with
  | .ok id => return text.map fun _ => id
  | .error invalid => throw (.pending (.refused invalid.message) text.rest)

end AreaId

namespace Area

/-- An area as JSON. -/
def toJson (area : Area kind) : Json :=
  .object [("id", area.id.toJson), ("name", .string area.name)]

/-- Reads an area. -/
def decoder : Json.Decoder (Area kind) :=
  (Json.pairOf kind.title "id" "name" AreaId.decoder (fun _ => Json.readString) Area.mk).decoder

end Area

/-- An entry of a listing, as the price service sends it. -/
structure ListingEntry (kind : AreaKind) where
  id : String
  name : String
deriving DecidableEq

namespace ListingEntry

/-- The key of the id in a listing. -/
def idKey : AreaKind → String
  | .province => "IDPovincia"
  | .municipality => "IDMunicipio"

/-- The key of the name in a listing. -/
def nameKey : AreaKind → String
  | .province => "Provincia"
  | .municipality => "Municipio"

/-- An entry as JSON. -/
def toJson (entry : ListingEntry kind) : Json :=
  .object [(idKey kind, .string entry.id), (nameKey kind, .string entry.name)]

/-- Reads an entry. -/
def decoder : Json.Decoder (ListingEntry kind) :=
  (Json.pairOf (kind.title ++ "Dto") (idKey kind) (nameKey kind) (fun _ => Json.readString)
    (fun _ => Json.readString) ListingEntry.mk).decoder

/-- The area that an entry stands for. -/
def toArea (entry : ListingEntry kind) : Except InvalidAreaId (Area kind) :=
  (AreaId.parseTrimmed entry.id).map fun id => ⟨id, entry.name⟩

/-- What is told of an entry that stands for no area. -/
def dropped? (entry : ListingEntry kind) : Option Event :=
  match entry.toArea with
  | .ok _ => none
  | .error invalid => some
      { level := .debug
        message := "dropping " ++ kind.word ++ " with bad id"
        fields := [("id", entry.id), ("error", invalid.message)] }

end ListingEntry

/-- A listing of the price service. -/
abbrev Listing (kind : AreaKind) := List (ListingEntry kind)

namespace Listing

/-- Reads a listing. -/
def decoder : Json.Decoder (Listing kind) := Json.readList ListingEntry.decoder

/-- The areas of a listing, in its order. -/
def areas (listing : Listing kind) : List (Area kind) := listing.filterMap (·.toArea.toOption)

/-- What is told of the entries that stand for no area. -/
def dropped (listing : Listing kind) : List Event := listing.filterMap (·.dropped?)

end Listing

end StationFinder
