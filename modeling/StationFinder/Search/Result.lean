import StationFinder.Search

/-!
# Search/Result — the stations that were found

A row shows what a visitor wants to know of a station, at the instant for which the search was made.
-/

namespace StationFinder

/-- A station that was found. -/
structure Row where
  id : Option String
  brand : Option String
  address : Option String
  municipality : Option String
  province : Option String
  /-- The price of the fuel that was asked for. -/
  price : Option String
  schedule : String
  isOpen : Bool
deriving DecidableEq, Repr

namespace Row

/-- The row of a station. -/
def ofStation (fuel : Option Fuel) (t : Instant) (station : Station) : Row where
  id := station.id?
  brand := station.brand?
  address := station.address?
  municipality := station.municipality?
  province := station.province?
  price := fuel.bind fun fuel => station.price? fuel.key
  schedule := station.hours
  isOpen := station.isOpen t

/-- A row as JSON. -/
def toJson (row : Row) : Json :=
  .object [("id", .ofText? row.id), ("brand", .ofText? row.brand),
    ("address", .ofText? row.address), ("municipality", .ofText? row.municipality),
    ("province", .ofText? row.province), ("price", .ofText? row.price),
    ("schedule", .string row.schedule), ("is_open", .bool row.isOpen)]

end Row

/-- The answer to a search. -/
structure SearchResult where
  search : Search
  evaluatedAt : Instant
  rows : List Row

namespace SearchResult

/-- The answer to a search at an instant, when these are the stations of its area. -/
def ofStations (search : Search) (t : Instant) (stations : List Station) : SearchResult where
  search := search
  evaluatedAt := t
  rows := (search.criteria.keep t stations).map (Row.ofStation search.fuel t)

/-- An answer as JSON. -/
def toJson (result : SearchResult) : Json :=
  .object [("scope", .string result.search.scope.text),
    ("fuel", .ofText? (result.search.fuel.map Fuel.key)),
    ("open_now", .bool result.search.openNow),
    ("evaluated_at", .string result.evaluatedAt.text),
    ("stations", .array (result.rows.map Row.toJson))]

end SearchResult

end StationFinder
