import StationFinder.Proofs.Page.Rendered
import StationFinder.Proofs.Server.Agreement
import StationFinder.Proofs.Session.Listed
import StationFinder.Proofs.Session.Submitted

/-!
# Proofs/Session/Offered — the page offers the municipalities that are listed

Whoever names a province on the page is offered its municipalities there, and a script of the page
asks for the same list at an address of its own.  The two read the name in different ways, and only
one of them tells of a failure.  But there is one outcome behind both (`Server.municipalitiesOf`):
the address tells what it is (`Server.eval_municipalities`), and the page offers what there is of it
(`Server.eval_offeredMunicipalities`).  So over a settled source they agree about every text
(`Session.offered_municipalities_are_listed`).
-/

namespace StationFinder

/-! ## Texts in paths and forms in queries -/

/-- What stands in a path for a text: a segment, in any encoding. -/
def Http.Route.Spells (segment text : String) : Prop :=
  '/' ∉ segment.toList ∧ decodeSegment? segment.toList = some text

/-- A text with all its bytes escaped. -/
def Text.escaped (text : String) : String :=
  String.ofList (Text.Form.chars ((Text.Utf8.encode text.toList).flatMap Text.Form.escape))

/-- **Every text can stand in a path.** -/
theorem Http.Route.spells_escaped (text : String) : Spells (Text.escaped text) text := by
  have hbytes : ∀ x ∈ (Text.Utf8.encode text.toList).flatMap Text.Form.escape,
      x < 0x80 ∧ x ≠ 0x2F := by
    intro x hx
    obtain ⟨b, -, hx⟩ := List.mem_flatMap.mp hx
    exact Text.Form.of_mem_escape b x hx
  refine ⟨fun hslash => ?_, ?_⟩
  · rw [Text.escaped, String.toList_ofList] at hslash
    obtain ⟨x, hx, hchar⟩ := List.mem_map.mp hslash
    have hback : ∀ x : UInt8, Char.ofNat x.toNat = '/' → x = 0x2F :=
      Text.Form.forall_byte (by decide +kernel)
    exact (hbytes x hx).2 (hback x hchar)
  · rw [decodeSegment?, Text.escaped, String.toList_ofList,
      Text.Form.encode_chars fun x hx => (hbytes x hx).1, Text.Form.percentDecode_flatMap_escape,
      Text.Utf8.decode?_encode, Option.map_some, String.ofList_toList]

namespace SearchForm

/-- The fields of a form that are filled in, with their names. -/
def pairs (form : SearchForm) : List (String × String) :=
  FormField.all.filterMap fun field => (form.get field).map (field.name, ·)

/-- **Every form can stand in a query.** -/
theorem ofQuery_pairs (form : SearchForm) :
    ofQuery (Text.Utf8.encode (Text.Form.query form.pairs)) = .ok form := by
  rw [ofQuery, Text.Form.decode_query]
  obtain ⟨_ | province, _ | municipality, _ | fuel, _ | openBox⟩ := form <;> rfl

end SearchForm

/-! ## What is listed -/

/-- The ids and the names in a list of areas. -/
def Json.areas? (answer : Json) : Option (List (String × String)) := do
  let areas ← answer.items?
  areas.mapM fun area => do
    let id ← (area.member? "id").bind Json.string?
    let name ← (area.member? "name").bind Json.string?
    return (id, name)

/-- A response lists areas with these ids and names. -/
def Http.Response.ListsAreas (response : Http.Response) (areas : List (String × String)) : Prop :=
  ∃ answer, Json.decode Json.readAny response.body = .ok answer ∧ answer.areas? = some areas

namespace Server

theorem areas?_areasJson {kind : AreaKind} (areas : List (Area kind)) :
    (areasJson areas).areas? = some (areas.map fun area => (area.id.text, area.name)) := by
  show (areas.map Area.toJson).mapM _ = _
  induction areas with
  | nil => rfl
  | cons area areas ih =>
    rw [List.map_cons, List.mapM_cons, ih]
    rfl

variable {answers : (query : Query) → query.Outcome} {t : Instant}

/-- What becomes of the municipalities of a province that is named by a text. -/
def municipalitiesOf (answers : (query : Query) → query.Outcome) (text : String) :
    Except Failure (List Municipality) :=
  match AreaId.parseTrimmed text with
  | .error _ => .error (.ofForm (.invalidProvince text))
  | .ok province => (answers (.municipalities province)).mapError Failure.ofSource

/-- **The address of the municipalities tells what becomes of them.** -/
theorem eval_municipalities {segment : List Char} {text : String}
    (h : Http.Route.decodeSegment? segment = some text) :
    (municipalities segment).eval answers t
      = settle (fun areas => .json 200 (areasJson areas)) (municipalitiesOf answers text) := by
  rw [municipalities, h, municipalitiesOf]
  rcases hparse : (AreaId.parseTrimmed text : Except _ ProvinceId) with fault | province
  · simp only [hparse]
    rfl
  · simp only [hparse]
    rfl

theorem eval_respond_municipalities {segment text : String} (h : Http.Route.Spells segment text)
    (assets : Assets) (query : List Char) (accept : List (List UInt8)) : (respond assets (.get
      ("/api/provinces/" ++ segment ++ "/municipalities") query accept)).eval answers t
      = settle (fun areas => .json 200 (areasJson areas)) (municipalitiesOf answers text) := by
  let request :=
    Http.Request.get ("/api/provinces/" ++ segment ++ "/municipalities") query accept
  have hrespond : respond assets request = handle assets request (.municipalities segment.toList) :=
    respond_of_get rfl (Http.Route.ofPath?_municipalities h.1)
  rw [hrespond, handle, eval_municipalities h.2]

/-- **The page offers what becomes of them**, and nothing where that is a failure. -/
theorem eval_offeredMunicipalities (text : String) :
    (offeredMunicipalities (Text.nonBlank text)).eval answers t
      = (municipalitiesOf answers text).toOption.getD [] := by
  rw [municipalitiesOf, AreaId.parseTrimmed, Text.nonBlank]
  split
  · next hblank =>
    -- no text is not an id either
    rw [hblank]
    rfl
  · rw [offeredMunicipalities, Option.map_some]
    rcases (AreaId.parse (Text.trimmed text) : Except _ ProvinceId) with fault | province
    · rfl
    · show (answers (.municipalities province)).toOption.getD []
        = ((answers (.municipalities province)).mapError Failure.ofSource).toOption.getD []
      cases answers (.municipalities province) <;> rfl

/-- What is listed is what is offered. -/
theorem settle_lists (outcome : Except Failure (List Municipality)) (chosen : Option String) :
    let listed := settle (fun areas => .json 200 (areasJson areas)) outcome
    let offered := (outcome.toOption.getD []).map (Choice.ofArea · chosen)
    (listed.status = 200 →
        listed.ListsAreas (offered.map fun choice => (choice.value, choice.label)))
      ∧ (listed.status ≠ 200 → offered = []) := by
  intro listed offered
  cases outcome with
  | error failure => exact ⟨fun hok => absurd hok failure.status_ne_ok, fun _ => rfl⟩
  | ok areas =>
    refine ⟨fun _ => ⟨areasJson areas, decode_areasJson areas, ?_⟩, fun hbad => absurd rfl hbad⟩
    rw [areas?_areasJson, List.map_map]
    rfl

end Server

/-! ## What is chosen -/

/-- What a list offers has this value selected which a field of the form holds, blanks aside, and
nothing else. -/
def SearchForm.Selects (form : SearchForm) (field : FormField) (choices : List Choice) : Prop :=
  ∀ choice ∈ choices, choice.selected = true
    ↔ ∃ text, form.get field = some text ∧ Text.trimmed text = choice.value

theorem SearchForm.selects_map {α : Type} {form : SearchForm} {field : FormField} {as : List α}
    {value label : α → String} (hvalue : ∀ a ∈ as, value a ≠ "") :
    form.Selects field
      (as.map fun a => Choice.make (value a) (label a) (form.filled? field)) := by
  refine List.forall_mem_map.mpr fun a ha => ?_
  simp only [Choice.make, decide_eq_true_eq, filled?, Option.bind_eq_some_iff,
    Text.nonBlank_eq_some_iff, hvalue a ha, ne_eq, not_false_eq_true, and_true]

theorem Fuel.key_ne_empty (fuel : Fuel) : fuel.key ≠ "" := by
  cases fuel <;> decide

/-- **The page of a form has selected what the form holds.** -/
theorem Server.selects_indexPage (form : SearchForm) (provinces : List Province)
    (municipalities : List Municipality) (search : Option (Except Failure SearchResult)) :
    let page := indexPage form provinces municipalities search
    form.Selects .province page.provinces ∧ form.Selects .municipality page.municipalities
      ∧ form.Selects .fuel page.fuels :=
  ⟨SearchForm.selects_map fun area _ => area.id.text_ne_empty,
    SearchForm.selects_map fun area _ => area.id.text_ne_empty,
    SearchForm.selects_map fun fuel _ => fuel.key_ne_empty⟩

namespace Session

variable {σ : Type} {network : Network σ} {answers : (query : Query) → query.Outcome}
  {state state' : SourceState σ}

/-- **The page offers the municipalities that are listed.**  Let two sources be settled and have
the same answers, and let them have provinces.  Take any form with a text for the province, whatever
it is: the form can stand in a query, and the text in a path.  In any encoding there is a page for
the query and a response for the path.  If the response lists municipalities, the page offers them,
with the same ids and names and in the same order; if it tells of a failure, the page offers none.
In each of the three lists of the page, behind the line for nothing chosen, that is selected which
the form holds, blanks aside, and nothing else. -/
theorem offered_municipalities_are_listed (hstate : SourceM.IsSettled network answers state)
    (hstate' : SourceM.IsSettled network answers state') {provinces : List Province}
    (hprovinces : answers .provinces = .ok provinces) {form : SearchForm} {text : String}
    (hform : form.province = some text) (t t' : Instant) (assets assets' : Server.Assets) :
    (∃ query, SearchForm.ofQuery (Text.Utf8.encode query) = .ok form)
      ∧ (∃ segment, Http.Route.Spells segment text)
      ∧ ∀ (query query' : List Char) (segment : String) (accept accept' : List (List UInt8)),
        SearchForm.ofQuery (Text.Utf8.encode query) = .ok form →
        Http.Route.Spells segment text →
        ∃ page listed,
          (step network (.visit (some t) assets (.get "/" query accept)) state).1 = .response page
            ∧ (step network (.visit (some t') assets' (.get
              ("/api/provinces/" ++ segment ++ "/municipalities") query' accept')) state').1
              = .response listed
            ∧ page.status = 200
            ∧ ∃ offeredProvinces municipalities fuels,
              Html.forms page.body = [⟨"/", "get",
                [.select "province" (IndexPage.nothingChosen :: offeredProvinces),
                  .select "municipality" (IndexPage.nothingChosen :: municipalities),
                  .select "fuel" (IndexPage.nothingChosen :: fuels),
                  .checkbox "open" form.openNow]⟩]
              ∧ (listed.status = 200 →
                listed.ListsAreas (municipalities.map fun choice => (choice.value, choice.label)))
              ∧ (listed.status ≠ 200 → municipalities = [])
              ∧ form.Selects .province offeredProvinces
              ∧ form.Selects .municipality municipalities
              ∧ form.Selects .fuel fuels := by
  refine ⟨⟨_, form.ofQuery_pairs⟩, ⟨_, Http.Route.spells_escaped text⟩, ?_⟩
  intro query query' segment accept accept' hquery hsegment
  obtain ⟨outcome, houtcome⟩ : ∃ outcome, Server.municipalitiesOf answers text = outcome :=
    ⟨_, rfl⟩
  let search := if form.province.isSome then some ((Server.findStations form).eval answers t)
    else none
  let page := Server.indexPage form provinces (outcome.toOption.getD []) search
  have hpage :
      (Server.respond assets (.get "/" query accept)).eval answers t = .page page.markup := by
    have hfilled : form.filled? .province = Text.nonBlank text := by
      rw [SearchForm.filled?, SearchForm.get, hform, Option.bind_some]
    rw [Server.respond_index, Server.withForm_of_ok hquery, Server.eval_index hprovinces, hfilled,
      Server.eval_offeredMunicipalities, houtcome]
  have hlisted := step_of_isSettled hstate' t' assets'
    (.get ("/api/provinces/" ++ segment ++ "/municipalities") query' accept')
  rw [Server.eval_respond_municipalities hsegment, houtcome] at hlisted
  obtain ⟨hok, hbad⟩ := Server.settle_lists outcome (form.filled? .municipality)
  exact ⟨_, _, (step_of_isSettled hstate t _ _).trans (congrArg _ hpage), hlisted, rfl, _, _, _,
    page.forms_markup (Server.quiet_results form provinces _ search), hok, hbad,
    Server.selects_indexPage form provinces _ search⟩

/-- Files list two municipalities of a province that is asked for with blanks around its id. -/
theorem padded_province_offers_what_is_listed :
    let t := Instant.ofMinutes 720
    let areas : List Province := [⟨⟨"01", by decide⟩, "ARABA"⟩, ⟨⟨"28", by decide⟩, "MADRID"⟩]
    let narrowAreas : List Municipality :=
      [⟨⟨"4280", by decide⟩, "Alcalá de Henares"⟩, ⟨⟨"4354", by decide⟩, "Madrid"⟩]
    let fixtures : Fixtures := ⟨areas, Table.empty.insert "28" narrowAreas, .empty, .empty⟩
    let state : SourceState Unit := ⟨.fixtures fixtures, 0, (), []⟩
    let form : SearchForm := ⟨some " 28 ", some "4354", none, none⟩
    ∃ page listed,
      (step .unreachable
          (.visit (some t) .none (.get "/" "province=+28+&municipality=4354".toList [])) state).1
        = .response page
        ∧ (step .unreachable
          (.visit (some t) .none (.get "/api/provinces/%2028%20/municipalities" [] [])) state).1
          = .response listed
        ∧ page.status = 200 ∧ listed.status = 200
        ∧ ∃ offeredProvinces municipalities fuels,
          Html.forms page.body = [⟨"/", "get",
            [.select "province" (IndexPage.nothingChosen :: offeredProvinces),
              .select "municipality" (IndexPage.nothingChosen :: municipalities),
              .select "fuel" (IndexPage.nothingChosen :: fuels), .checkbox "open" false]⟩]
          ∧ listed.ListsAreas (municipalities.map fun choice => (choice.value, choice.label))
          ∧ form.Selects .municipality municipalities := by
  intro t areas narrowAreas fixtures state form
  let query := "province=+28+&municipality=4354".toList
  have hsettled : SourceM.IsSettled Network.unreachable
      (fun query => (SourceM.ask Network.unreachable query state).1) state := .of_fixtures rfl
  have hpairs : Text.Form.decode (Text.Utf8.encode query)
      = [("province", " 28 "), ("municipality", "4354")] := by
    decide +kernel
  have hquery : SearchForm.ofQuery (Text.Utf8.encode query) = .ok form := by
    rw [SearchForm.ofQuery, hpairs]
    rfl
  have hsegment : Http.Route.Spells "%2028%20" " 28 " := ⟨by decide, by decide +kernel⟩
  obtain ⟨-, -, hall⟩ := offered_municipalities_are_listed hsettled hsettled rfl
    (show form.province = some " 28 " from rfl) t t .none .none
  obtain ⟨page, listed, hpage, hlisted, hstatus, provinces, municipalities, fuels, hforms, hok, -,
    -, hselects, -⟩ := hall query [] "%2028%20" [] [] hquery hsegment
  have hlistedOk : listed.status = 200 := by
    rw [Answer.response.inj (hlisted.symm.trans (step_of_isSettled hsettled t _ _)),
      Server.eval_respond_municipalities hsegment]
    rfl
  exact ⟨page, listed, hpage, hlisted, hstatus, hlistedOk, provinces, municipalities, fuels, hforms,
    hok hlistedOk, hselects⟩

end Session

end StationFinder
