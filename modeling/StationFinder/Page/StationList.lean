import StationFinder.Page.Markup
import StationFinder.Search.Result

/-!
# Page/StationList — the stations that were found, as part of a page
-/

namespace StationFinder

/-- A station as visitors see it. -/
structure StationView where
  brand : String
  /-- Street, municipality and province, those that are known. -/
  address : String
  price : String
  schedule : String
  isOpen : Bool
deriving DecidableEq, Repr

namespace StationView

/-- What stands in place of a price that is not known. -/
def noPrice : String := "N/A"

/-- The view of a row. -/
def ofRow (row : Row) : StationView where
  brand := row.brand.getD ""
  address := String.intercalate ", " ([row.address, row.municipality, row.province].filterMap id)
  price := row.price.getD noPrice
  schedule := row.schedule
  isOpen := row.isOpen

/-- Whether a station is open, in a word. -/
def status (view : StationView) : String := if view.isOpen then "Open" else "Closed"

/-- The kind of badge that shows it. -/
def badge (view : StationView) : String := if view.isOpen then "open" else "closed"

/-- A station under a heading for its price. -/
def markup (heading : String) (view : StationView) : Markup :=
  [.markup "\n<div class=\"station\">\n    <h3>", .text view.brand,
    .markup " <span class=\"badge ", .markup view.badge, .markup "\">", .text view.status,
    .markup "</span></h3>\n    <p><strong>Address:</strong> ", .text view.address,
    .markup "</p>\n    <p><strong>", .text heading, .markup ":</strong> ", .text view.price,
    .markup "</p>\n    <p><strong>Schedule:</strong> ", .text view.schedule,
    .markup "</p>\n</div>\n"]

end StationView

/-- A list of stations. -/
structure StationList where
  stations : List StationView
  /-- The fuel whose prices are shown. -/
  fuelLabel : Option String
  /-- When it was looked up which stations are open. -/
  evaluatedAt : String
deriving DecidableEq, Repr

namespace StationList

/-- The list of a search's result. -/
def ofResult (result : SearchResult) : StationList where
  stations := result.rows.map StationView.ofRow
  fuelLabel := result.search.fuel.map Fuel.label
  evaluatedAt := result.evaluatedAt.text

/-- The heading of the prices. -/
def priceHeading (list : StationList) : String :=
  match list.fuelLabel with
  | some label => "Fuel Price (" ++ label ++ ")"
  | none => "Fuel Price"

/-- The stations, or that there are none. -/
def body (list : StationList) : Markup :=
  if list.stations.isEmpty then [.markup "\n<p>No stations found.</p>\n"]
  else
    [.markup "\n"] ++ list.stations.flatMap (StationView.markup list.priceHeading) ++ [.markup "\n"]

/-- A list of stations as part of a page. -/
def markup (list : StationList) : Markup :=
  [.markup "<p class=\"evaluated-at\">Opening hours checked at ", .text list.evaluatedAt,
    .markup ".</p>\n"] ++ list.body

end StationList

end StationFinder
