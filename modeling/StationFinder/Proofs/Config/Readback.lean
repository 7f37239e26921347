import StationFinder.Proofs.Address.Endpoint
import StationFinder.Proofs.Config.Lifetime

/-!
# Proofs/Config/Readback — settings are read back from the variables that give them

All that matters of a variable is the value that it is set to (`Config.value?_congr`), so every
setting follows its own variable and no other.  A setting that is read from a text either has what
was read or its default, and in the second case there is one warning, which names the variable
(`Config.Setting.of_unreadable`).  What was read once is written so that it is read again: a value
is trimmed and not blank (`Config.nonBlank_of_value?`), an address has a text of its own
(`Endpoint.parse?_text`), and a number of seconds has no more than 64 bits
(`Config.Setting.seconds_le_maxSeconds`).
-/

namespace StationFinder

/-- Whether an event is about a variable. -/
def Event.isAbout (key : String) (event : Event) : Bool := event.fields.contains ("key", key)

namespace Config

variable {lookup other : Lookup} {key value : String}

/-- The value that a variable is set to: what stands there, trimmed; a blank is none. -/
def IsSetTo (lookup : Lookup) (key value : String) : Prop :=
  ∃ text, lookup key = some text ∧ Text.trimmed text = value ∧ value ≠ ""

/-- A variable is the same for two lookups, as far as its value goes. -/
def AgreeOn (lookup other : Lookup) (key : String) : Prop :=
  ∀ value, IsSetTo lookup key value ↔ IsSetTo other key value

/-- A variable is set to a value that cannot be read: to what is no address with a port, or to
what is no number of seconds of 64 bits. -/
inductive Unreadable (lookup : Lookup) : (key value : String) → Prop where
  | endpoint {value : String} (hset : IsSetTo lookup endpointVar value)
      (hread : Endpoint.parse? value = none) : Unreadable lookup endpointVar value
  | seconds {key value : String} (hkey : key = apiTimeoutVar ∨ key = listingTtlVar)
      (hset : IsSetTo lookup key value) (hread : ∀ n ≤ maxSeconds, ¬ SetsSeconds lookup key n) :
      Unreadable lookup key value

/-- What is told of a value that cannot be read. -/
def ignored (key value : String) : Event where
  level := .warning
  message := "ignoring invalid configuration value"
  fields := [("key", key), ("value", value)]

theorem isAbout_ignored (key other value : String) :
    (ignored other value).isAbout key = decide (key = other) := by
  simp [ignored, Event.isAbout]

/-! ## One variable -/

/-- All that matters of a variable is its value. -/
theorem value?_congr (h : AgreeOn lookup other key) : value? lookup key = value? other key := by
  refine Option.ext fun value => ?_
  rw [value?_eq_some_iff, value?_eq_some_iff]
  exact h value

/-- A value is read back as it is: there are no blanks around it. -/
theorem nonBlank_of_value? (h : value? lookup key = some value) :
    Text.nonBlank value = some value := by
  obtain ⟨text, -, rfl, hne⟩ := value?_eq_some_iff.mp h
  have htrim : Text.trimmed (Text.trimmed text) = Text.trimmed text := by
    rw [Text.trimmed, Text.trimmed, String.toList_ofList,
      ← Text.trim_eq_of_isPadded (Text.isPadded_trim text.toList)]
  rw [Text.nonBlank, htrim, if_neg hne]

namespace Setting

variable {α : Type} (setting : Setting α) {a : α}

theorem get_congr (h : AgreeOn lookup other setting.key) :
    setting.get lookup = setting.get other := by
  rw [Setting.get, Setting.get, value?_congr h]

/-- What can be read is taken, and nothing is told. -/
theorem of_read (hvalue : value? lookup setting.key = some value)
    (hread : setting.read value = some a) :
    setting.get lookup = a ∧ setting.warning? lookup = none := by
  simp [Setting.get, Setting.warning?, hvalue, hread]

/-- What cannot be read leaves the default, and that is told. -/
theorem of_unreadable (hvalue : value? lookup setting.key = some value)
    (hread : setting.read value = none) :
    setting.get lookup = setting.fallback
      ∧ setting.warning? lookup = some (ignored setting.key value) := by
  simp [Setting.get, Setting.warning?, hvalue, hread, ignored]

theorem warning?_eq_some_iff {event : Event} : setting.warning? lookup = some event
    ↔ ∃ value, value? lookup setting.key = some value ∧ setting.read value = none
      ∧ event = ignored setting.key value := by
  rw [Setting.warning?]
  rcases value? lookup setting.key with _ | value
  · simp
  · rcases hread : setting.read value with _ | a
    · simp [hread, ignored, eq_comm (b := event)]
    · simp [hread]

/-- A warning is about its own variable. -/
theorem filter_warning? (key : String) : (setting.warning? lookup).toList.filter (·.isAbout key)
    = if key = setting.key then (setting.warning? lookup).toList else [] := by
  rcases hwarning : setting.warning? lookup with _ | event
  · simp
  · obtain ⟨value, -, -, rfl⟩ := (warning?_eq_some_iff setting).mp hwarning
    simp [List.filter_cons, isAbout_ignored]

end Setting

/-! ## What cannot be read -/

/-- Three variables are read as more than a text. -/
theorem Unreadable.eq_var (h : Unreadable lookup key value) :
    key = endpointVar ∨ key = apiTimeoutVar ∨ key = listingTtlVar := by
  cases h with
  | endpoint => exact .inl rfl
  | seconds hkey => exact .inr hkey

theorem unreadable_endpoint_iff : Unreadable lookup endpointVar value
    ↔ value? lookup endpointVar = some value ∧ Endpoint.parse? value = none := by
  rw [value?_eq_some_iff]
  constructor
  · rintro (⟨hset, hread⟩ | ⟨hkey, -, -⟩)
    · exact ⟨hset, hread⟩
    · -- the keys of the numbers are others
      exact absurd hkey (by decide)
  · rintro ⟨hset, hread⟩
    exact .endpoint hset hread

theorem unreadable_seconds_iff (hkey : key = apiTimeoutVar ∨ key = listingTtlVar) :
    Unreadable lookup key value
      ↔ value? lookup key = some value ∧ parseSeconds? value = none := by
  constructor
  · rintro (⟨-, -⟩ | ⟨-, hset, hread⟩)
    · exact absurd hkey (by decide)
    · have hvalue := value?_eq_some_iff.mpr hset
      refine ⟨hvalue, Option.eq_none_iff_forall_ne_some.mpr fun n hn => ?_⟩
      obtain ⟨hsets, hle⟩ :=
        seconds?_eq_some_iff.mp (Option.bind_eq_some_iff.mpr ⟨value, hvalue, hn⟩)
      exact hread n hle hsets
  · rintro ⟨hvalue, hnone⟩
    refine .seconds hkey (value?_eq_some_iff.mp hvalue) fun n hle hsets => ?_
    have hn := seconds?_eq_some_iff.mpr ⟨hsets, hle⟩
    rw [hvalue, Option.bind_some, hnone] at hn
    cases hn

/-! ## Variables that give settings -/

/-- A number of seconds that is set has no more than 64 bits. -/
theorem Setting.seconds_le_maxSeconds (setting : Setting Nat) (hread : setting.read = parseSeconds?)
    (hfallback : setting.fallback ≤ maxSeconds) : setting.get lookup ≤ maxSeconds := by
  rw [Setting.get, hread]
  rcases hseconds : (value? lookup setting.key).bind parseSeconds? with _ | n
  · exact hfallback
  · exact (seconds?_eq_some_iff.mp hseconds).2

/-- A number of seconds is written so that it is read again. -/
theorem parseSeconds?_write {n : Nat} (h : n ≤ maxSeconds) :
    parseSeconds? (String.ofList (Text.Numeral.write n)) = some n := by
  refine parseSeconds?_eq_some_iff.mpr ⟨h, _, ?_, .inl String.toList_ofList⟩
  exact Text.Numeral.value?_eq_some_iff.mp (Text.Numeral.value?_write n)

theorem nonBlank_write (n : Nat) : Text.nonBlank (String.ofList (Text.Numeral.write n))
    = some (String.ofList (Text.Numeral.write n)) := by
  have hdigits := Text.Numeral.value?_eq_some_iff.mp (Text.Numeral.value?_write n)
  rw [Text.nonBlank, Text.trimmed, String.toList_ofList, trim_digits hdigits (.inl rfl),
    if_neg (by simp [Text.Numeral.write_ne_nil])]

theorem nonBlank_text (endpoint : Endpoint) :
    Text.nonBlank endpoint.text = some endpoint.text := by
  rw [Text.nonBlank, endpoint.trimmed_text, if_neg endpoint.text_ne_empty]

/-- A value is read back, and so is what stands for a variable without one. -/
theorem nonBlank_getD_value? {default : String} (h : Text.nonBlank default = some default) :
    Text.nonBlank ((value? lookup key).getD default)
      = some ((value? lookup key).getD default) := by
  rcases hvalue : value? lookup key with _ | value
  · exact h
  · exact nonBlank_of_value? hvalue

/-- The variables that give some settings, by their names. -/
def givenBy (config : Config) : Lookup := fun key => config.toVars.lookup key

theorem value?_givenBy {config : Config} (hlookup : config.givenBy key = some value)
    (hvalue : Text.nonBlank value = some value) : value? config.givenBy key = some value := by
  rw [value?, hlookup, Option.bind_some, hvalue]

/-- **Settings are read back from the variables that give them**, and nothing is told. -/
theorem ofLookup_givenBy (lookup : Lookup) :
    ofLookup (ofLookup lookup).givenBy = ofLookup lookup
      ∧ warnings (ofLookup lookup).givenBy = [] := by
  set config := ofLookup lookup with hconfig
  have hendpoint : value? config.givenBy endpointVar = some config.endpoint.text :=
    value?_givenBy rfl (nonBlank_text _)
  have hbaseUrl : value? config.givenBy apiBaseUrlVar = some config.apiBaseUrl :=
    value?_givenBy rfl (nonBlank_getD_value? (by decide +kernel))
  have htimeout : value? config.givenBy apiTimeoutVar
      = some (String.ofList (Text.Numeral.write config.apiTimeout)) :=
    value?_givenBy rfl (nonBlank_write _)
  have httl : value? config.givenBy listingTtlVar
      = some (String.ofList (Text.Numeral.write config.listingTtl)) :=
    value?_givenBy rfl (nonBlank_write _)
  have hstatic : value? config.givenBy staticDirVar = some config.staticDir :=
    value?_givenBy rfl (nonBlank_getD_value? (by decide +kernel))
  have hmock : value? config.givenBy mockDataDirVar = config.mockDataDir := by
    rcases hdir : config.mockDataDir with _ | dir
    · rw [value?, givenBy, toVars, hdir]
      rfl
    · refine value?_givenBy ?_ (nonBlank_of_value? hdir)
      rw [givenBy, toVars, hdir]
      rfl
  obtain ⟨hendpoint, hendpointQuiet⟩ :=
    endpointSetting.of_read hendpoint config.endpoint.parse?_text
  obtain ⟨htimeout, htimeoutQuiet⟩ := apiTimeoutSetting.of_read htimeout
    (parseSeconds?_write (apiTimeoutSetting.seconds_le_maxSeconds rfl (by decide)))
  obtain ⟨httl, httlQuiet⟩ := listingTtlSetting.of_read httl
    (parseSeconds?_write (listingTtlSetting.seconds_le_maxSeconds rfl (by decide)))
  refine ⟨?_, ?_⟩
  · rw [ofLookup, hendpoint, hbaseUrl, htimeout, httl, hmock, hstatic]
    rfl
  · rw [warnings, hendpointQuiet, htimeoutQuiet, httlQuiet]
    rfl

/-! ## Warnings -/

/-- The warnings about a variable are those of its setting. -/
theorem filter_warnings (lookup : Lookup) (key : String) :
    (warnings lookup).filter (·.isAbout key)
      = (if key = endpointVar then (endpointSetting.warning? lookup).toList else [])
        ++ (if key = apiTimeoutVar then (apiTimeoutSetting.warning? lookup).toList else [])
        ++ (if key = listingTtlVar then (listingTtlSetting.warning? lookup).toList else []) := by
  rw [warnings, List.filter_append, List.filter_append, Setting.filter_warning?,
    Setting.filter_warning?, Setting.filter_warning?]
  rfl

/-- **There is one warning about each variable that cannot be read.** -/
theorem filter_warnings_of_unreadable (h : Unreadable lookup key value) :
    (warnings lookup).filter (·.isAbout key) = [ignored key value] := by
  rw [filter_warnings]
  rcases h.eq_var with rfl | rfl | rfl
  · obtain ⟨hvalue, hread⟩ := unreadable_endpoint_iff.mp h
    rw [if_pos rfl, if_neg (by decide), if_neg (by decide),
      (endpointSetting.of_unreadable hvalue hread).2]
    rfl
  · obtain ⟨hvalue, hread⟩ := (unreadable_seconds_iff (.inl rfl)).mp h
    rw [if_neg (by decide), if_pos rfl, if_neg (by decide),
      (apiTimeoutSetting.of_unreadable hvalue hread).2]
    rfl
  · obtain ⟨hvalue, hread⟩ := (unreadable_seconds_iff (.inr rfl)).mp h
    rw [if_neg (by decide), if_neg (by decide), if_pos rfl,
      (listingTtlSetting.of_unreadable hvalue hread).2]
    rfl

example : warnings (fun key => if key = apiTimeoutVar then some " -3 " else none)
    = [ignored apiTimeoutVar "-3"] := by
  decide +kernel

/-- There are no other warnings. -/
theorem unreadable_of_mem_warnings {event : Event} (h : event ∈ warnings lookup) :
    ∃ key value, Unreadable lookup key value ∧ event = ignored key value := by
  simp only [warnings, List.mem_append, Option.mem_toList] at h
  rcases h with (h | h) | h
  · obtain ⟨value, hvalue, hread, rfl⟩ := (Setting.warning?_eq_some_iff _).mp h
    exact ⟨_, value, unreadable_endpoint_iff.mpr ⟨hvalue, hread⟩, rfl⟩
  · obtain ⟨value, hvalue, hread, rfl⟩ := (Setting.warning?_eq_some_iff _).mp h
    exact ⟨_, value, (unreadable_seconds_iff (.inl rfl)).mpr ⟨hvalue, hread⟩, rfl⟩
  · obtain ⟨value, hvalue, hread, rfl⟩ := (Setting.warning?_eq_some_iff _).mp h
    exact ⟨_, value, (unreadable_seconds_iff (.inr rfl)).mpr ⟨hvalue, hread⟩, rfl⟩

/-- **Each setting follows its own variable, and settings give themselves.**  Take two sets of
variables, whatever they hold.  A setting is the same in both if its own variable has the same
value, with blanks around it or without, and blanks alone are no value.  A variable that is set to
what cannot be read leaves its setting at the default and is told of once, with its trimmed value;
nothing else is told.  If the settings are written out as variables and read again, they are the
same and there is nothing to tell. -/
theorem settings_follow_variables (lookup other : Lookup) :
    let config := ofLookup lookup
    let config' := ofLookup other
    ((AgreeOn lookup other "FUEL_BIND_ADDR" → config.endpoint = config'.endpoint)
        ∧ (AgreeOn lookup other "FUEL_API_BASE_URL" → config.apiBaseUrl = config'.apiBaseUrl)
        ∧ (AgreeOn lookup other "FUEL_API_TIMEOUT_SECS" → config.apiTimeout = config'.apiTimeout)
        ∧ (AgreeOn lookup other "FUEL_LISTING_TTL_SECS" → config.listingTtl = config'.listingTtl)
        ∧ (AgreeOn lookup other "FUEL_MOCK_DATA_DIR" → config.mockDataDir = config'.mockDataDir)
        ∧ (AgreeOn lookup other "FUEL_STATIC_DIR" → config.staticDir = config'.staticDir))
      ∧ (∀ value, (Unreadable lookup "FUEL_BIND_ADDR" value →
            config.endpoint = .quad (.ofNat 127 0 0 1) 3000)
          ∧ (Unreadable lookup "FUEL_API_TIMEOUT_SECS" value → config.apiTimeout = 30)
          ∧ (Unreadable lookup "FUEL_LISTING_TTL_SECS" value → config.listingTtl = 3600))
      ∧ (∀ key value, Unreadable lookup key value →
          (warnings lookup).filter (·.isAbout key) = [ignored key value])
      ∧ (∀ event ∈ warnings lookup, ∃ key value, Unreadable lookup key value
          ∧ event = ignored key value)
      ∧ ofLookup config.givenBy = config
      ∧ warnings config.givenBy = [] := by
  intro config config'
  refine ⟨⟨?_, ?_, ?_, ?_, ?_, ?_⟩, fun value => ⟨?_, ?_, ?_⟩,
    fun _ _ => filter_warnings_of_unreadable, fun _ => unreadable_of_mem_warnings,
    ofLookup_givenBy lookup⟩
  · exact endpointSetting.get_congr
  · exact fun h => congrArg (·.getD defaultBaseUrl) (value?_congr h)
  · exact apiTimeoutSetting.get_congr
  · exact listingTtlSetting.get_congr
  · exact value?_congr
  · exact fun h => congrArg (·.getD "static") (value?_congr h)
  · intro h
    obtain ⟨hvalue, hread⟩ := unreadable_endpoint_iff.mp h
    exact (endpointSetting.of_unreadable hvalue hread).1
  · intro h
    obtain ⟨hvalue, hread⟩ := (unreadable_seconds_iff (.inl rfl)).mp h
    exact (apiTimeoutSetting.of_unreadable hvalue hread).1
  · intro h
    obtain ⟨hvalue, hread⟩ := (unreadable_seconds_iff (.inr rfl)).mp h
    exact (listingTtlSetting.of_unreadable hvalue hread).1

end Config

end StationFinder
