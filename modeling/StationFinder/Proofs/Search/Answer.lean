import StationFinder.Proofs.Json.Readback
import StationFinder.Proofs.Outcome
import StationFinder.Proofs.Search.Composition
import StationFinder.Proofs.Server.Visit

/-!
# Proofs/Search/Answer — a search finds what it asks for, and nothing else

What is wanted of a station is said here once more, in terms of its fields (`Station.IsWanted`), and
so is what the answer says about it (`Station.entry`).  A form is understood exactly if it asks for
a search (`Search.ofForm_eq_ok_iff`), the criteria of the search admit the stations that are
wanted (`Station.admits_iff`), and the row of a station is its entry (`Row.toJson_ofStation`).
Whoever reads the answer as JSON finds these entries in it (`SearchResult.decode_text`).
-/

namespace StationFinder

/-! ## Reading answers -/

namespace Json

/-- The value under a key of an object. -/
def member? (key : String) : Json → Option Json
  | object members => members.lookup key
  | _ => none

theorem readAny_ofText? (depth : Nat) (value : Option String) :
    ReadsBack (readAny depth) (ofText? value) (ofText? value) := by
  cases value with
  | none => exact readAny_null depth
  | some text => exact readAny_string depth text

end Json

namespace Row

theorem readsBack (depth : Nat) (row : Row) :
    Json.ReadsBack (Json.readAny (depth + 1)) row.toJson row.toJson := by
  refine Json.readAny_object ?_
  simp only [List.forall_mem_cons, Json.readAny_ofText?, Json.readAny_string, Json.readAny_bool,
    List.not_mem_nil, false_implies, implies_true, and_self]

end Row

/-- **The answer to a search is read back.** -/
theorem SearchResult.decode_text (result : SearchResult) :
    Json.decode Json.readAny result.toJson.text = .ok result.toJson := by
  refine Json.decode_text (Json.readAny_object ?_)
  have hrows : Json.ReadsBack (Json.readAny 126) (.array (result.rows.map Row.toJson))
      (.array (result.rows.map Row.toJson)) :=
    Json.readAny_array (List.forall_mem_map.mpr fun row _ => row.readsBack 124)
  simp only [List.forall_mem_cons, Json.readAny_ofText?, Json.readAny_string, Json.readAny_bool,
    hrows, List.not_mem_nil, false_implies, implies_true, and_self]

/-! ## What is asked for -/

/-- What a field is filled in with is the text that it holds, unless the text is blank. -/
theorem SearchForm.filled?_of_get {form : SearchForm} {field : FormField} {text : String}
    (h : form.get field = some text) : form.filled? field = Text.nonBlank text := by
  rw [filled?, h, Option.bind_some]

/-- A form asks for a search: what it is filled in with, blanks aside, is the id of the province,
the id of the municipality and the key of the fuel, the last two if they are asked for. -/
structure SearchForm.Asks (form : SearchForm) (province : ProvinceId)
    (municipality : Option MunicipalityId) (fuel : Option Fuel) (openNow : Bool) : Prop where
  province : form.filled? .province = some province.text
  municipality : form.filled? .municipality = municipality.map (·.text)
  fuel : form.filled? .fuel = fuel.map Fuel.key
  openNow : form.openNow = openNow

variable {form : SearchForm} {province : ProvinceId} {municipality : Option MunicipalityId}
  {fuel : Option Fuel} {openNow : Bool} {t : Instant} {station : Station}

/-- The area of a search is the municipality where one is given, and the province otherwise. -/
def Scope.narrowest (province : ProvinceId) (municipality : Option MunicipalityId) : Scope :=
  municipality.elim (.province province) .municipality

namespace Search

theorem provinceOf_eq_ok_iff :
    provinceOf form = .ok province ↔ form.filled? .province = some province.text := by
  rw [provinceOf]
  cases form.filled? .province with
  | none => simp
  | some text => rw [Option.some.injEq, mapError_eq_ok_iff, AreaId.parse_eq_ok_iff]

theorem municipalityOf_eq_ok_iff : municipalityOf form = .ok municipality
    ↔ form.filled? .municipality = municipality.map (·.text) := by
  rw [municipalityOf]
  cases form.filled? .municipality with
  | none => cases municipality <;> simp
  | some text =>
    simp only [mapError_eq_ok_iff]
    cases municipality with
    | none => cases (AreaId.parse text : Except _ MunicipalityId) <;> simp [Except.map]
    | some id =>
      rw [Option.map_some, Option.some.injEq, ← AreaId.parse_eq_ok_iff]
      cases (AreaId.parse text : Except _ MunicipalityId) <;> simp [Except.map]

theorem fuelOf_eq_ok_iff : fuelOf form = .ok fuel ↔ form.filled? .fuel = fuel.map Fuel.key := by
  have hkey {key : String} {f : Fuel} : Fuel.ofKey? key = some f ↔ key = f.key :=
    ⟨fun h => (Fuel.key_of_ofKey? h).symm, fun h => h ▸ Fuel.ofKey?_key f⟩
  rw [fuelOf]
  cases form.filled? .fuel with
  | none => cases fuel <;> simp
  | some key =>
    cases fuel with
    | none => rcases hfound : Fuel.ofKey? key with _ | found <;> simp [hfound]
    | some f =>
      rw [Option.map_some, Option.some.injEq, ← hkey]
      rcases hfound : Fuel.ofKey? key with _ | found <;> simp [hfound]

/-- **A form is understood exactly if it asks for a search**, and then as that search. -/
theorem ofForm_eq_ok_iff {search : Search} : ofForm form = .ok search
    ↔ ∃ province municipality, form.Asks province municipality search.fuel search.openNow
      ∧ search.scope = .narrowest province municipality := by
  have hscope (province : ProvinceId) (municipality : Option MunicipalityId) :
      Scope.ofChoice province municipality = .narrowest province municipality := by
    cases municipality <;> rfl
  constructor
  · intro h
    rcases hprovince : provinceOf form with fault | province
    · rw [ofForm, hprovince] at h
      cases h
    rcases hmunicipality : municipalityOf form with fault | municipality
    · rw [ofForm, hprovince, hmunicipality] at h
      cases h
    rcases hfuel : fuelOf form with fault | fuel
    · rw [ofForm, hprovince, hmunicipality, hfuel] at h
      cases h
    rw [ofForm, hprovince, hmunicipality, hfuel] at h
    cases h
    exact ⟨province, municipality, ⟨provinceOf_eq_ok_iff.mp hprovince,
      municipalityOf_eq_ok_iff.mp hmunicipality, fuelOf_eq_ok_iff.mp hfuel, rfl⟩,
      hscope province municipality⟩
  · rintro ⟨province, municipality, hasks, hnarrowest⟩
    rw [ofForm, provinceOf_eq_ok_iff.mpr hasks.province,
      municipalityOf_eq_ok_iff.mpr hasks.municipality, fuelOf_eq_ok_iff.mpr hasks.fuel,
      hasks.openNow]
    show Except.ok _ = _
    rw [hscope, ← hnarrowest]

theorem ofForm_of_asks (h : form.Asks province municipality fuel openNow) :
    ofForm form = .ok ⟨.narrowest province municipality, fuel, openNow⟩ :=
  ofForm_eq_ok_iff.mpr ⟨province, municipality, h, rfl⟩

end Search

namespace Station

/-- A station is wanted: it has a price for the fuel that is asked for, if one is, and it is open if
only open ones are asked for. -/
def IsWanted (fuel : Option Fuel) (openNow : Bool) (t : Instant) (station : Station) : Prop :=
  (∀ f, fuel = some f → ∃ price, station.field? f.key = some price ∧ price ≠ "")
    ∧ (openNow = true →
      (Schedule.parse ((station.field? scheduleKey).getD "")).isOpen t = true)

/-- **The criteria of a search admit the stations that are wanted.** -/
theorem admits_iff : (Criteria.mk (fuel.map Fuel.key) openNow).admits t station = true
    ↔ station.IsWanted fuel openNow t := by
  rw [Criteria.admits_eq_true_iff, IsWanted]
  refine and_congr_left' ?_
  cases fuel <;> simp

instance : DecidablePred (IsWanted fuel openNow t) := fun _ => decidable_of_iff _ admits_iff

/-- The text under a key as JSON: `null` where there is none or an empty one. -/
def textJson (station : Station) (key : String) : Json :=
  match station.field? key with
  | some text => if text = "" then .null else .string text
  | none => .null

/-- What the answer to a search says about a station. -/
def entry (fuel : Option Fuel) (t : Instant) (station : Station) : Json :=
  .object [("id", station.textJson "IDEESS"), ("brand", station.textJson "Rótulo"),
    ("address", station.textJson "Dirección"), ("municipality", station.textJson "Municipio"),
    ("province", station.textJson "Provincia"),
    ("price", fuel.elim .null fun fuel => station.textJson fuel.key),
    ("schedule", .string ((station.field? "Horario").getD "")),
    ("is_open", .bool ((Schedule.parse ((station.field? "Horario").getD "")).isOpen t))]

theorem ofText?_filled? (key : String) :
    Json.ofText? (station.filled? key) = station.textJson key := by
  rw [filled?, textJson]
  cases station.field? key with
  | none => rfl
  | some text =>
    by_cases h : text = ""
    · rw [Option.filter_some, if_neg (by simpa using h)]
      simp only [if_pos h, Json.ofText?]
    · rw [Option.filter_some, if_pos (by simpa using h)]
      simp only [if_neg h, Json.ofText?]

end Station

/-- **The row of a station is its entry.** -/
theorem Row.toJson_ofStation : (Row.ofStation fuel t station).toJson = station.entry fuel t := by
  have hprice : Json.ofText? (fuel.bind fun fuel => station.price? fuel.key)
      = fuel.elim .null fun fuel => station.textJson fuel.key := by
    cases fuel with
    | none => rfl
    | some fuel => exact Station.ofText?_filled? fuel.key
  simp only [Row.toJson, Row.ofStation, Station.entry, hprice, Station.id?, Station.brand?,
    Station.address?, Station.municipality?, Station.province?, Station.ofText?_filled?]
  rfl

/-! ## What is answered -/

/-- The answer to a search with what it says about each station. -/
def Search.answer (search : Search) (t : Instant) (entries : List Json) : Json :=
  .object [("scope", .string search.scope.text), ("fuel", .ofText? (search.fuel.map Fuel.key)),
    ("open_now", .bool search.openNow), ("evaluated_at", .string t.text),
    ("stations", .array entries)]

theorem Search.criteria_eq (scope : Scope) :
    criteria ⟨scope, fuel, openNow⟩ = ⟨fuel.map Fuel.key, openNow⟩ := by
  cases fuel with
  | none => rfl
  | some f => cases f <;> rfl

/-- **The answer lists the entries of the stations that are wanted**, in their order. -/
theorem SearchResult.toJson_ofStations (scope : Scope) (stations : List Station) :
    (ofStations ⟨scope, fuel, openNow⟩ t stations).toJson
      = Search.answer ⟨scope, fuel, openNow⟩ t
        ((stations.filter (Station.IsWanted fuel openNow t)).map (Station.entry fuel t)) := by
  have hkept : (Search.criteria ⟨scope, fuel, openNow⟩).keep t stations
      = stations.filter (Station.IsWanted fuel openNow t) := by
    refine List.filter_congr fun station _ => ?_
    rw [Search.criteria_eq, Bool.eq_iff_iff, Station.admits_iff, decide_eq_true_iff]
  rw [toJson, ofStations, hkept, List.map_map]
  have hrow : Row.toJson ∘ Row.ofStation fuel t = Station.entry fuel t :=
    funext fun station => Row.toJson_ofStation
  simp only [hrow]
  rfl

namespace Station

theorem price_of_isWanted {f : Fuel} (h : station.IsWanted (some f) openNow t) :
    ∃ price, (station.entry (some f) t).member? "price" = some (.string price) ∧ price ≠ "" := by
  obtain ⟨price, hfield, hne⟩ := h.1 f rfl
  refine ⟨price, ?_, hne⟩
  have hentry : (station.entry (some f) t).member? "price" = some (station.textJson f.key) := rfl
  rw [hentry, textJson, hfield]
  simp only [if_neg hne]

theorem isOpen_of_isWanted (h : station.IsWanted fuel true t) :
    (station.entry fuel t).member? "is_open" = some (.bool true) := by
  have hentry : (station.entry fuel t).member? "is_open"
      = some (.bool ((Schedule.parse ((station.field? "Horario").getD "")).isOpen t)) := rfl
  rw [hentry, ← h.2 rfl]
  rfl

end Station

/-- **A search finds the stations that are wanted, and no others.**  Whatever the source is, if it
has stations for the area of a search, then the answer in JSON says at which instant it was made and
has the entry of each station that is wanted at that instant, in the order of the source and as
often as the source has the station.  So no price is missing if a fuel was asked for, and every
station is open if only open ones were. -/
theorem Session.answer_lists_wanted {σ : Type} (network : Network σ) (state : SourceState σ)
    (t : Instant) (assets : Server.Assets) (query : List Char) (accept : List (List UInt8))
    (form : SearchForm)
    (province : ProvinceId) (municipality : Option MunicipalityId) (fuel : Option Fuel)
    (openNow : Bool) (stations : List Station)
    (hquery : SearchForm.ofQuery (Text.Utf8.encode query) = .ok form)
    (hform : form.Asks province municipality fuel openNow)
    (haccept : (Http.Request.get "/stations" query accept).acceptsHtml = false)
    (hstations : (SourceM.ask network (.stations (.narrowest province municipality)) state).1
      = .ok stations) :
    ∃ answer entries,
      (Session.step network (.visit (some t) assets (.get "/stations" query accept)) state).1
          = .response (.json 200 answer)
        ∧ Json.decode Json.readAny answer.text = .ok answer
        ∧ answer = Search.answer ⟨.narrowest province municipality, fuel, openNow⟩ t entries
        ∧ entries = (stations.filter (Station.IsWanted fuel openNow t)).map (Station.entry fuel t)
        ∧ (fuel ≠ none → ∀ entry ∈ entries,
          ∃ price, entry.member? "price" = some (.string price) ∧ price ≠ "")
        ∧ (openNow = true → ∀ entry ∈ entries, entry.member? "is_open" = some (.bool true)) := by
  obtain ⟨outcome, state', hrun, hstep⟩ := Session.step_stations network t hquery state
  have houtcome : outcome = .ok
      (.ofStations ⟨.narrowest province municipality, fuel, openNow⟩ t stations) := by
    rw [Server.findStations, Search.ofForm_of_asks hform, Server.run_runSearch, hstations] at hrun
    exact (Option.some.inj (Prod.mk.inj hrun).1).symm
  refine ⟨_, _, ?_, SearchResult.decode_text (.ofStations ⟨_, fuel, openNow⟩ t stations),
    SearchResult.toJson_ofStations _ stations, rfl, ?_, ?_⟩
  · rw [hstep assets accept, houtcome, haccept]
    rfl
  · intro hfuel entry hentry
    obtain ⟨f, rfl⟩ := Option.ne_none_iff_exists'.mp hfuel
    obtain ⟨station, hstation, rfl⟩ := List.mem_map.mp hentry
    exact Station.price_of_isWanted (of_decide_eq_true (List.mem_filter.mp hstation).2)
  · intro hopen entry hentry
    subst hopen
    obtain ⟨station, hstation, rfl⟩ := List.mem_map.mp hentry
    exact Station.isOpen_of_isWanted (of_decide_eq_true (List.mem_filter.mp hstation).2)

/-- Of two stations one has no price, so only the other one is found. -/
theorem Session.answer_lists_priced_station :
    let t := Instant.ofMinutes (2 * 1440 + 720)
    let priced := Station.ofFields [("Horario", "L-V: 08:00-20:00"), ("Precio Gasoleo A", "1,459")]
    let other := Station.ofFields [("Horario", "L-D: 24H"), ("Precio Gasoleo A", "")]
    let fixtures : Fixtures := ⟨[], .empty, Table.empty.insert "28" [other, priced], .empty⟩
    (Session.step Network.unreachable (.visit (some t) .none (.get "/stations"
        "province=28&fuel=Precio+Gasoleo+A&open=on".toList [])) ⟨.fixtures fixtures, 0, (), []⟩).1
      = .response (.json 200 (Search.answer ⟨.province ⟨"28", by decide⟩, some .diesel, true⟩ t
        [priced.entry (some .diesel) t])) := by
  intro t priced other fixtures
  have hpairs : Text.Form.decode
      (Text.Utf8.encode "province=28&fuel=Precio+Gasoleo+A&open=on".toList)
      = [("province", "28"), ("fuel", "Precio Gasoleo A"), ("open", "on")] := by
    decide +kernel
  have hquery : SearchForm.ofQuery
      (Text.Utf8.encode "province=28&fuel=Precio+Gasoleo+A&open=on".toList)
      = .ok ⟨some "28", none, some "Precio Gasoleo A", some "on"⟩ := by
    rw [SearchForm.ofQuery, hpairs]
    rfl
  have hasks : SearchForm.Asks ⟨some "28", none, some "Precio Gasoleo A", some "on"⟩
      ⟨"28", by decide⟩ none (some .diesel) true :=
    ⟨by decide, by decide, by decide, by decide⟩
  obtain ⟨answer, entries, hstep, -, hanswer, hentries, -⟩ :=
    Session.answer_lists_wanted Network.unreachable ⟨.fixtures fixtures, 0, (), []⟩ t .none _ [] _ _
      _ _ _ [other, priced] hquery hasks (by decide) rfl
  have hwanted : [other, priced].filter (Station.IsWanted (some .diesel) true t) = [priced] := by
    decide
  rw [hstep, hanswer, hentries, hwanted]
  rfl

end StationFinder
