import StationFinder.Station

/-!
# Search/Criteria — which stations a search keeps

A search may ask for a fuel, by the name of its price field, and for stations that are open.
Criteria look at one station at a time, so they keep the order of a list.
-/

namespace StationFinder

/-- What is asked of a station. -/
structure Criteria where
  /-- The key of the fuel that it has to sell. -/
  fuel : Option String
  /-- Whether it has to be open. -/
  openNow : Bool
deriving DecidableEq, Repr

namespace Criteria

/-- Nothing is asked. -/
def any : Criteria := ⟨none, false⟩

/-- The same with another fuel; an empty key asks for none. -/
def withFuel (criteria : Criteria) (key : String) : Criteria :=
  { criteria with fuel := if key = "" then none else some key }

/-- The same with another choice about open stations. -/
def withOpenNow (criteria : Criteria) (openNow : Bool) : Criteria :=
  { criteria with openNow := openNow }

/-- Whether a station meets the criteria at an instant. -/
def admits (criteria : Criteria) (t : Instant) (station : Station) : Bool :=
  criteria.fuel.all station.sells && (!criteria.openNow || station.isOpen t)

/-- The stations that meet the criteria, in their order. -/
def keep (criteria : Criteria) (t : Instant) (stations : List Station) : List Station :=
  stations.filter (criteria.admits t)

end Criteria

end StationFinder
