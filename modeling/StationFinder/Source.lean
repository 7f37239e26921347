import StationFinder.Source.Cache
import StationFinder.Source.Fixtures
import StationFinder.Source.Network

/-!
# Source — where listings and stations come from

A source is the price service itself, the price service behind a cache of its listings, or a
directory of files.  It answers three questions; stations carry live prices and are never kept.
What a source does depends on the network and on the clock, which are part of its `SourceState`.
-/

namespace StationFinder

/-- A source of listings and stations. -/
inductive Source where
  | fixtures (fixtures : Fixtures)
  | client (config : ClientConfig)
  | cached (config : ClientConfig) (cache : Cache)
deriving DecidableEq

/-- Why a source cannot be made. -/
inductive SourceRefusal where
  | tooManyAtOnce
  | ttlTooLong
deriving DecidableEq, Repr

namespace Source

/-- How many requests may be under way at once, at most. -/
def maxPermits : Nat := Nat.pow 2 61 - 1

/-- The price service itself. -/
def ofClient (config : ClientConfig) : Except SourceRefusal Source :=
  if config.maxConcurrent ≤ maxPermits then .ok (client config) else .error .tooManyAtOnce

/-- The price service behind a cache. -/
def ofCachedClient (config : ClientConfig) (cacheConfig : CacheConfig) :
    Except SourceRefusal Source :=
  if config.maxConcurrent ≤ maxPermits then
    match Cache.new? cacheConfig with
    | some cache => .ok (cached config cache)
    | none => .error .ttlTooLong
  else .error .tooManyAtOnce

/-- A directory of files. -/
def ofDirectory (directory : Directory) : Except SourceFault Source :=
  ((Fixtures.load directory).map fixtures).mapError fun fault => .fixtures fault.message

end Source

/-- A source with what its answers depend on. -/
structure SourceState (σ : Type) where
  source : Source
  /-- The nanoseconds that a clock which never goes back has counted. -/
  clock : Nat
  /-- The memory of the network. -/
  network : σ
  /-- The requests that were handed to the network, in their order. -/
  sent : List ApiRequest

/-- What may ask a source and change its state. -/
abbrev SourceM (σ : Type) := StateM (SourceState σ)

namespace SourceM

variable {σ α : Type}

/-- Hands a request to the network. -/
def send (network : Network σ) (request : ApiRequest) : SourceM σ Reply := fun state =>
  let (reply, memory) := network.send request state.network
  (reply, { state with network := memory, sent := state.sent ++ [request] })

/-- Asks the price service and reads its answer. -/
def fetch (network : Network σ) (config : ClientConfig) (query : Query) :
    SourceM σ query.Outcome := do
  let request := ApiRequest.ofQuery config query
  match request.destination with
  | .error fault => return .error (.exchange fault)
  | .ok _ => return query.read (← send network request)

/-- Puts a listing that was fetched into the cache; one that could not be fetched changes nothing.
-/
def keep (config : ClientConfig) (put : Nat → α → Cache) (fetched : Except SourceFault α) :
    SourceM σ (Except SourceFault α) := fun state =>
  match fetched with
  | .ok a => (.ok a, { state with source := .cached config (put state.clock a) })
  | .error fault => (.error fault, state)

/-- The provinces. -/
def listProvinces (network : Network σ) : SourceM σ (Except SourceFault (List Province)) := do
  let state ← get
  match state.source with
  | .fixtures fixtures => return .ok fixtures.provinces
  | .client config => fetch network config .provinces
  | .cached config cache =>
    match cache.provinces? state.clock with
    | some provinces => return .ok provinces
    | none => fetch network config .provinces >>= keep config cache.putProvinces

/-- The municipalities of a province. -/
def listMunicipalities (network : Network σ) (province : ProvinceId) :
    SourceM σ (Except SourceFault (List Municipality)) := do
  let state ← get
  match state.source with
  | .fixtures fixtures => return fixtures.listMunicipalities province
  | .client config => fetch network config (.municipalities province)
  | .cached config cache =>
    match cache.municipalities? state.clock province with
    | some municipalities => return .ok municipalities
    | none =>
      fetch network config (.municipalities province)
        >>= keep config fun now => cache.putMunicipalities now province

/-- The stations of an area. -/
def listStations (network : Network σ) (scope : Scope) :
    SourceM σ (Except SourceFault (List Station)) := do
  match (← get).source with
  | .fixtures fixtures => return fixtures.listStations scope
  | .client config | .cached config _ => fetch network config (.stations scope)

/-- Asks the source a question. -/
def ask (network : Network σ) : (query : Query) → SourceM σ query.Outcome
  | .provinces => listProvinces network
  | .municipalities province => listMunicipalities network province
  | .stations scope => listStations network scope

/-- Makes room in the cache; sources that have none are left as they are. -/
def evict (province : ProvinceId) : SourceM σ Unit :=
  modify fun state =>
    match state.source with
    | .cached config cache => { state with source := .cached config (cache.evict province) }
    | _ => state

/-- Lets the clock go on. -/
def advance (nanoseconds : Nat) : SourceM σ Unit :=
  modify fun state => { state with clock := state.clock + nanoseconds }

/-- Reads the files again, from another directory; if they are unusable the old ones stay.  Sources
that have no files are left as they are. -/
def reload (directory : Directory) : SourceM σ (Except SourceFault Unit) := fun state =>
  match state.source, Source.ofDirectory directory with
  | .fixtures _, .ok source => (.ok (), { state with source := source })
  | .fixtures _, .error fault => (.error fault, state)
  | _, _ => (.ok (), state)

end SourceM

end StationFinder
