import StationFinder.Address.Endpoint
import StationFinder.Event
import StationFinder.Text.Blank
import StationFinder.Text.Cut

/-!
# Config — the settings of the server

Settings are read from named variables.  Blanks around a value do not matter, and a blank value
counts as unset.  What is unset has its default; so has what cannot be read, and that is told.
-/

namespace StationFinder

/-- Where the price service answers, unless another address is set. -/
def defaultBaseUrl : String :=
  "https://sedeaplicaciones.minetur.gob.es/ServiciosRESTCarburantes/PreciosCarburantes"

/-- The settings of the client of the price service. -/
structure ClientConfig where
  /-- What stands in front of every path. -/
  baseUrl : String
  /-- How many requests may be under way at once. -/
  maxConcurrent : Nat
  timeoutSeconds : Nat
deriving DecidableEq, Repr

namespace ClientConfig

/-- The settings of a client that no one has changed. -/
def initial : ClientConfig := ⟨defaultBaseUrl, 4, 30⟩

/-- The same with another address, without the slashes at its end. -/
def withBaseUrl (config : ClientConfig) (url : String) : ClientConfig :=
  { config with baseUrl := String.ofList (Text.dropTrailing '/' url.toList) }

/-- The same with another number of requests at once. -/
def withMaxConcurrent (config : ClientConfig) (n : Nat) : ClientConfig :=
  { config with maxConcurrent := n }

/-- The same with another time limit. -/
def withTimeout (config : ClientConfig) (seconds : Nat) : ClientConfig :=
  { config with timeoutSeconds := seconds }

end ClientConfig

/-- A number of seconds as nanoseconds. -/
def nanoseconds (seconds : Nat) : Nat := 1000000000 * seconds

/-- The settings of the cache of listings. -/
structure CacheConfig where
  /-- How many nanoseconds a listing is kept. -/
  ttl : Nat
  /-- How many listings of municipalities are kept. -/
  maxCapacity : Nat
deriving DecidableEq, Repr

namespace CacheConfig

/-- An hour, and room for every province. -/
def initial : CacheConfig := ⟨nanoseconds 3600, 64⟩

/-- The same with another time to keep a listing. -/
def withTtl (config : CacheConfig) (ttl : Nat) : CacheConfig := { config with ttl := ttl }

end CacheConfig

/-- The settings of the server. -/
structure Config where
  /-- Where the server listens. -/
  endpoint : Endpoint
  apiBaseUrl : String
  apiTimeout : Nat
  listingTtl : Nat
  /-- Where the files are that stand in for the price service, if they are to. -/
  mockDataDir : Option String
  staticDir : String
deriving DecidableEq, Repr

namespace Config

/-! ## Variables -/

def endpointVar : String := "FUEL_BIND_ADDR"
def apiBaseUrlVar : String := "FUEL_API_BASE_URL"
def apiTimeoutVar : String := "FUEL_API_TIMEOUT_SECS"
def listingTtlVar : String := "FUEL_LISTING_TTL_SECS"
def mockDataDirVar : String := "FUEL_MOCK_DATA_DIR"
def staticDirVar : String := "FUEL_STATIC_DIR"

/-- The variables by their names. -/
abbrev Lookup := String → Option String

/-- The value of a variable, trimmed, unless it is unset or blank. -/
def value? (lookup : Lookup) (key : String) : Option String := (lookup key).bind Text.nonBlank

/-- The greatest number of seconds. -/
def maxSeconds : Nat := Nat.pow 2 64 - 1

/-- Reads a number of seconds: digits, with a plus sign in front or without. -/
def parseSeconds? (s : String) : Option Nat :=
  let digits := match s.toList with
    | '+' :: digits => digits
    | digits => digits
  (Text.Numeral.value? digits).filter (· ≤ maxSeconds)

/-- A setting that is read from the text of a variable. -/
structure Setting (α : Type) where
  key : String
  read : String → Option α
  fallback : α

/-- The value of a setting. -/
def Setting.get {α : Type} (setting : Setting α) (lookup : Lookup) : α :=
  ((value? lookup setting.key).bind setting.read).getD setting.fallback

/-- What is told of a setting whose variable cannot be read. -/
def Setting.warning? {α : Type} (setting : Setting α) (lookup : Lookup) : Option Event :=
  match value? lookup setting.key with
  | none => none
  | some value =>
    if (setting.read value).isSome then none
    else some
      { level := .warning
        message := "ignoring invalid configuration value"
        fields := [("key", setting.key), ("value", value)] }

/-- Where the server listens: on the machine itself, unless an address is set. -/
def endpointSetting : Setting Endpoint where
  key := endpointVar
  read := Endpoint.parse?
  fallback := .quad (.ofNat 127 0 0 1) ⟨3000, by decide⟩

/-- How many seconds the price service may take for an answer. -/
def apiTimeoutSetting : Setting Nat := ⟨apiTimeoutVar, parseSeconds?, 30⟩

/-- How many seconds listings are kept. -/
def listingTtlSetting : Setting Nat := ⟨listingTtlVar, parseSeconds?, 3600⟩

/-! ## The settings -/

/-- Reads the settings. -/
def ofLookup (lookup : Lookup) : Config where
  endpoint := endpointSetting.get lookup
  apiBaseUrl := (value? lookup apiBaseUrlVar).getD defaultBaseUrl
  apiTimeout := apiTimeoutSetting.get lookup
  listingTtl := listingTtlSetting.get lookup
  mockDataDir := value? lookup mockDataDirVar
  staticDir := (value? lookup staticDirVar).getD "static"

/-- What is told when the settings are read. -/
def warnings (lookup : Lookup) : List Event :=
  (endpointSetting.warning? lookup).toList ++ (apiTimeoutSetting.warning? lookup).toList
    ++ (listingTtlSetting.warning? lookup).toList

/-- The settings when no variable is set. -/
def initial : Config := ofLookup fun _ => none

/-- The settings of the client. -/
def client (config : Config) : ClientConfig :=
  (ClientConfig.initial.withBaseUrl config.apiBaseUrl).withTimeout config.apiTimeout

/-- The settings of the cache. -/
def cache (config : Config) : CacheConfig :=
  CacheConfig.initial.withTtl (nanoseconds config.listingTtl)

/-- The variables that give these settings. -/
def toVars (config : Config) : List (String × String) :=
  let seconds (n : Nat) := String.ofList (Text.Numeral.write n)
  [(endpointVar, config.endpoint.text), (apiBaseUrlVar, config.apiBaseUrl),
    (apiTimeoutVar, seconds config.apiTimeout), (listingTtlVar, seconds config.listingTtl),
    (staticDirVar, config.staticDir)]
    ++ (config.mockDataDir.map fun dir => (mockDataDirVar, dir)).toList

end Config

end StationFinder
