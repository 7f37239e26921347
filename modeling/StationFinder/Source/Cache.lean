import StationFinder.Area
import StationFinder.Config
import StationFinder.Table

/-!
# Source/Cache — listings that are kept for a while

A listing is kept from the moment it was put until its time is over; reading it does not prolong
the time.  With no time at all nothing is ever found.  Times are counted in nanoseconds of a clock
that never goes back, and that comes to its end after some centuries.
-/

namespace StationFinder

/-- A value with the time at which it was put. -/
structure Stamped (α : Type) where
  value : α
  since : Nat
deriving DecidableEq

/-- Where the clock stops: one short of the greatest number of 64 bits, which stands for a time that
is not set. -/
def clockEnd : Nat := Nat.pow 2 64 - 2

/-- The value, as long as less than `ttl` has passed and the clock has not come to its end. -/
def Stamped.fresh? {α : Type} (ttl now : Nat) (stamped : Stamped α) : Option α :=
  if now < stamped.since + ttl ∧ now < clockEnd then some stamped.value else none

/-- The listings that were put. -/
structure Cache where
  ttl : Nat
  provinces : Option (Stamped (List Province))
  /-- The municipalities, under the ids of their provinces. -/
  municipalities : Table (Stamped (List Municipality))
deriving DecidableEq

namespace Cache

/-- The longest time for which listings can be kept: a thousand years. -/
def maxTtl : Nat := nanoseconds (1000 * 365 * 24 * 60 * 60)

/-- An empty cache, unless listings were to be kept too long. -/
def new? (config : CacheConfig) : Option Cache :=
  if config.ttl ≤ maxTtl then some ⟨config.ttl, none, Table.empty⟩ else none

/-- The listing of the provinces. -/
def provinces? (cache : Cache) (now : Nat) : Option (List Province) :=
  cache.provinces.bind (·.fresh? cache.ttl now)

/-- The listing of a province's municipalities. -/
def municipalities? (cache : Cache) (now : Nat) (province : ProvinceId) :
    Option (List Municipality) :=
  (cache.municipalities.get? province.text).bind (·.fresh? cache.ttl now)

/-- Puts the listing of the provinces. -/
def putProvinces (cache : Cache) (now : Nat) (list : List Province) : Cache :=
  { cache with provinces := some ⟨list, now⟩ }

/-- Puts the listing of a province's municipalities. -/
def putMunicipalities (cache : Cache) (now : Nat) (province : ProvinceId)
    (list : List Municipality) : Cache :=
  { cache with municipalities := cache.municipalities.insert province.text ⟨list, now⟩ }

/-- Gives up the listing of a province's municipalities to make room for others. -/
def evict (cache : Cache) (province : ProvinceId) : Cache :=
  { cache with municipalities := cache.municipalities.erase province.text }

end Cache

end StationFinder
