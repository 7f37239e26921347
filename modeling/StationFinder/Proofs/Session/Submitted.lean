import StationFinder.Proofs.Area.Ids
import StationFinder.Proofs.Page.Submission
import StationFinder.Proofs.Server.Blame
import StationFinder.Proofs.Text.Form

/-!
# Proofs/Session/Submitted — the page holds the search that was made

The page with the search form shows what was searched, and a visitor who submits the form as it
stands makes the same search again.  For areas that are listed the form submits the ids and the key
as the search understood them, without the blanks and other spellings of the query
(`Server.submits_page_iff`), and these ask for the same search
(`SearchForm.exists_asks_submittedPairs`).
-/

namespace StationFinder

/-! ## What is read of a form that is submitted -/

namespace SearchForm

/-- The form that is read of what is submitted. -/
def submitted (province municipality fuel : String) (openNow : Bool) : SearchForm :=
  ⟨some province, some municipality, some fuel, if openNow then some "on" else none⟩

theorem ofQuery_submittedPairs (province municipality fuel : Option String) (openNow : Bool) :
    ofQuery (Text.Utf8.encode (Text.Form.query
        (Html.submittedPairs province municipality fuel openNow)))
      = .ok (submitted (province.getD "") (municipality.getD "") (fuel.getD "") openNow) := by
  rw [ofQuery, Text.Form.decode_query]
  cases openNow <;> rfl

/-- An id that may be missing is submitted as it is. -/
theorem nonBlank_id (municipality : Option MunicipalityId) :
    Text.nonBlank ((municipality.map (·.text)).getD "") = municipality.map (·.text) := by
  cases municipality with
  | none => decide
  | some municipality => exact municipality.nonBlank_text

/-- A key that may be missing is submitted as it is. -/
theorem nonBlank_key (fuel : Option Fuel) :
    Text.nonBlank ((fuel.map Fuel.key).getD "") = fuel.map Fuel.key := by
  rcases fuel with _ | (_ | _ | _ | _) <;> decide

/-- **What is submitted asks for the search that is shown.** -/
theorem exists_asks_submittedPairs (province : ProvinceId) (municipality : Option MunicipalityId)
    (fuel : Option Fuel) (openNow : Bool) : ∃ form, ofQuery (Text.Utf8.encode (Text.Form.query
        (Html.submittedPairs (some province.text) (municipality.map (·.text)) (fuel.map Fuel.key)
          openNow))) = .ok form
      ∧ form.Asks province municipality fuel openNow := by
  refine ⟨_, ofQuery_submittedPairs _ _ _ _, ?_⟩
  exact {
    province := (filled?_of_get rfl).trans province.nonBlank_text
    municipality := (filled?_of_get rfl).trans (nonBlank_id municipality)
    fuel := (filled?_of_get rfl).trans (nonBlank_key fuel)
    openNow := by cases openNow <;> rfl }

end SearchForm

/-! ## The page -/

namespace Server

/-- **The form of a page submits what its visitor asked for**, if the areas are offered there. -/
theorem submits_page_iff {form : SearchForm} {province : ProvinceId}
    {municipality : Option MunicipalityId} {fuel : Option Fuel} {openNow : Bool}
    {provinces : List Province} {municipalities : List Municipality}
    {search : Option (Except Failure SearchResult)} {pairs : List (String × String)}
    (hasks : form.Asks province municipality fuel openNow)
    (hprovince : ∃ area ∈ provinces, area.id = province)
    (hmunicipality : ∀ narrow ∈ municipality, ∃ area ∈ municipalities, area.id = narrow) :
    Html.Form.Submits ⟨"/", "get", (indexPage form provinces municipalities search).controls⟩ pairs
      ↔ pairs = Html.submittedPairs (some province.text) (municipality.map (·.text))
        (fuel.map Fuel.key) openNow := by
  let page := indexPage form provinces municipalities search
  have hprovinces : Html.Shows page.provinces (some province.text) := by
    rw [← hasks.province]
    refine Html.Shows.areas fun value hvalue => ?_
    rw [hasks.province] at hvalue
    obtain ⟨area, hmem, rfl⟩ := hprovince
    exact ⟨area, hmem, Option.some.inj hvalue⟩
  have hmunicipalities : Html.Shows page.municipalities (municipality.map (·.text)) := by
    rw [← hasks.municipality]
    refine Html.Shows.areas fun value hvalue => ?_
    rw [hasks.municipality] at hvalue
    obtain ⟨narrow, hnarrow, rfl⟩ := Option.map_eq_some_iff.mp hvalue
    obtain ⟨area, hmem, rfl⟩ := hmunicipality narrow hnarrow
    exact ⟨area, hmem, rfl⟩
  have hfuels : Html.Shows page.fuels (fuel.map Fuel.key) := by
    show Html.Shows (Fuel.all.map (Choice.ofFuel · (form.filled? .fuel))) _
    rw [hasks.fuel]
    exact Html.Shows.fuels fuel
  have hopenNow : page.openNow = openNow := hasks.openNow
  rw [← hopenNow]
  exact Html.submits_controls_iff hprovinces hmunicipalities hfuels

/-- **The page of a form**, where the provinces are known and one of them is chosen: it offers the
municipalities of this province. -/
theorem exists_run_index {σ : Type} {network : Network σ} {state mid : SourceState σ} {t : Instant}
    {form : SearchForm} {provinces : List Province} {province : ProvinceId}
    (hprovinces : SourceM.ask network .provinces state = (.ok provinces, mid))
    (hchosen : form.filled? .province = some province.text) : ∃ search state',
      (index form).run network (some t) state = (some (.page (indexPage form provinces
        ((SourceM.ask network (.municipalities province) mid).1.toOption.getD []) search).markup),
        state') := by
  have hoffered : offeredMunicipalities (form.filled? .province)
      = Inquiry.ask (.municipalities province) >>= fun municipalities =>
        return municipalities.toOption.getD [] := by
    rw [hchosen, offeredMunicipalities, Option.map_some, AreaId.parse_text]
  let later := (SourceM.ask network (.municipalities province) mid).2
  let municipalities := (SourceM.ask network (.municipalities province) mid).1.toOption.getD []
  let page (search : Option (Except Failure SearchResult)) :=
    Http.Response.page (indexPage form provinces municipalities search).markup
  obtain ⟨search, state', hsearch⟩ := Inquiry.exists_run network t (submittedSearch form) later
  have hpage : (page <$> submittedSearch form).run network (some t) later
      = (some (page search), state') := by
    rw [Inquiry.run_map, hsearch]
    rfl
  refine ⟨search, state', ?_⟩
  show (pageFor form (SourceM.ask network .provinces state).1).run network (some t)
    (SourceM.ask network .provinces state).2 = _
  rw [hprovinces]
  simp only [pageFor, hoffered]
  exact hpage

/-- What the page shows of a search tells nothing of forms. -/
theorem quiet_results (form : SearchForm) (provinces : List Province)
    (municipalities : List Municipality) (search : Option (Except Failure SearchResult)) :
    ∀ part ∈ (indexPage form provinces municipalities search).results, Html.Quiet part := by
  intro part hpart
  obtain ⟨result, -, hresult⟩ := Option.bind_eq_some_iff.mp hpart
  obtain ⟨found, -, rfl⟩ := Option.map_eq_some_iff.mp hresult
  exact StationList.quiet_markup (.ofResult found)

end Server

/-- A form whose areas are known asks for its search. -/
theorem SearchForm.asks_of_ofForm {form : SearchForm} {search : Search} {province : ProvinceId}
    {municipality : Option MunicipalityId} (hsearch : Search.ofForm form = .ok search)
    (hprovince : Search.provinceOf form = .ok province)
    (hmunicipality : Search.municipalityOf form = .ok municipality) :
    form.Asks province municipality search.fuel search.openNow
      ∧ search.scope = .narrowest province municipality := by
  obtain ⟨p, m, hasks, hscope⟩ := Search.ofForm_eq_ok_iff.mp hsearch
  obtain rfl := Except.ok.inj
    (hprovince.symm.trans (Search.provinceOf_eq_ok_iff.mpr hasks.province))
  obtain rfl := Except.ok.inj
    (hmunicipality.symm.trans (Search.municipalityOf_eq_ok_iff.mpr hasks.municipality))
  exact ⟨hasks, hscope⟩

/-- A source has an area in its list. -/
def AreaId.IsListedIn {kind : AreaKind} (id : AreaId kind)
    (outcome : Except SourceFault (List (Area kind))) : Prop :=
  ∃ areas, outcome = .ok areas ∧ ∃ area ∈ areas, area.id = id

namespace Session

/-- **The form of the page is the search that was made.**  Let a query hold a form that asks for a
search, in any spelling, and let the source list the province, and the municipality, if there is
one, among those of the province.  Then there is a page, and it has one form, to be sent as a query
to the address of the page.  Whatever this form submits as it stands asks for the same search. -/
theorem submitted_form_is_search {σ : Type} (network : Network σ) (state : SourceState σ)
    (t : Instant) (assets : Server.Assets) {query : List Char} {form : SearchForm} {search : Search}
    {province : ProvinceId} {municipality : Option MunicipalityId} (accept : List (List UInt8))
    (hquery : SearchForm.ofQuery (Text.Utf8.encode query) = .ok form)
    (hsearch : Search.ofForm form = .ok search) (hprovince : Search.provinceOf form = .ok province)
    (hmunicipality : Search.municipalityOf form = .ok municipality)
    (hlisted : province.IsListedIn (SourceM.ask network .provinces state).1)
    (hnarrow : ∀ narrow ∈ municipality, narrow.IsListedIn (SourceM.ask network
      (.municipalities province) (SourceM.ask network .provinces state).2).1) :
    ∃ page,
      (step network (.visit (some t) assets (.get "/" query accept)) state).1 = .response page
      ∧ page.status = 200
      ∧ ∃ rendered, Html.forms page.body = [rendered] ∧ rendered.action = "/"
        ∧ rendered.method = "get" ∧ (∃ pairs, rendered.Submits pairs)
        ∧ ∀ pairs, rendered.Submits pairs → ∃ again,
          SearchForm.ofQuery (Text.Utf8.encode (Text.Form.query pairs)) = .ok again
            ∧ Search.ofForm again = .ok search := by
  obtain ⟨hasks, hscope⟩ := SearchForm.asks_of_ofForm hsearch hprovince hmunicipality
  obtain ⟨provinces, hprovinces, hoffered⟩ := hlisted
  let mid := (SourceM.ask network .provinces state).2
  let municipalities : List Municipality :=
    (SourceM.ask network (.municipalities province) mid).1.toOption.getD []
  have hnarrowOffered : ∀ narrow ∈ municipality, ∃ area ∈ municipalities, area.id = narrow := by
    intro narrow hmem
    obtain ⟨areas, hareas, hlisted⟩ := hnarrow narrow hmem
    have hsame : municipalities = areas := by
      simp only [municipalities, mid, hareas]
      rfl
    rwa [hsame]
  obtain ⟨result, state', hrun⟩ :=
    Server.exists_run_index (t := t) (Prod.ext hprovinces rfl) hasks.province
  let page := Server.indexPage form provinces municipalities result
  have hvisit : (Server.respond assets (.get "/" query accept)).run network (some t) state
      = (some (.page page.markup), state') := by
    rw [Server.respond_index, Server.withForm_of_ok hquery]
    exact hrun
  have hsubmits (pairs : List (String × String)) :
      Html.Form.Submits ⟨"/", "get", page.controls⟩ pairs ↔ pairs = _ :=
    Server.submits_page_iff hasks hoffered hnarrowOffered
  refine ⟨_, congrArg Prod.fst (step_visit hvisit), rfl, _,
    page.forms_markup (Server.quiet_results form provinces municipalities result), rfl, rfl,
    ⟨_, (hsubmits _).mpr rfl⟩, fun pairs hpairs => ?_⟩
  obtain rfl := (hsubmits pairs).mp hpairs
  obtain ⟨again, hread, hasked⟩ :=
    SearchForm.exists_asks_submittedPairs province municipality search.fuel search.openNow
  exact ⟨again, hread, Search.ofForm_eq_ok_iff.mpr ⟨province, municipality, hasked, hscope⟩⟩

/-- A query with blanks, a field that is empty and a box that is ticked in capitals. -/
theorem padded_form_is_search :
    let t := Instant.ofMinutes 720
    let areas : List Province := [⟨⟨"01", by decide⟩, "ARABA"⟩, ⟨⟨"28", by decide⟩, "MADRID"⟩]
    let narrowAreas : List Municipality := [⟨⟨"4354", by decide⟩, "Madrid"⟩]
    let fixtures : Fixtures := ⟨areas, Table.empty.insert "28" narrowAreas, .empty, .empty⟩
    let state : SourceState Unit := ⟨.fixtures fixtures, 0, (), []⟩
    let query := "province=+28+&municipality=4354&fuel=&open=TRUE".toList
    ∃ page rendered, (step .unreachable (.visit (some t) .none (.get "/" query [])) state).1
          = .response page
        ∧ Html.forms page.body = [rendered] ∧ (∃ pairs, rendered.Submits pairs)
        ∧ ∀ pairs, rendered.Submits pairs → ∃ again,
          SearchForm.ofQuery (Text.Utf8.encode (Text.Form.query pairs)) = .ok again
            ∧ Search.ofForm again = .ok ⟨.municipality ⟨"4354", by decide⟩, none, true⟩ := by
  intro t areas narrowAreas fixtures state query
  let form : SearchForm := ⟨some " 28 ", some "4354", some "", some "TRUE"⟩
  have hpairs : Text.Form.decode (Text.Utf8.encode query)
      = [("province", " 28 "), ("municipality", "4354"), ("fuel", ""), ("open", "TRUE")] := by
    decide +kernel
  have hquery : SearchForm.ofQuery (Text.Utf8.encode query) = .ok form := by
    rw [SearchForm.ofQuery, hpairs]
    rfl
  have hasks : form.Asks ⟨"28", by decide⟩ (some ⟨"4354", by decide⟩) none true :=
    ⟨by decide, by decide, by decide, by decide⟩
  have hlisted : AreaId.IsListedIn ⟨"28", by decide⟩
      (SourceM.ask .unreachable .provinces state).1 :=
    ⟨areas, rfl, _, List.mem_cons_of_mem _ List.mem_cons_self, rfl⟩
  obtain ⟨page, hpage, -, rendered, hforms, -, -, hsome, hall⟩ :=
    submitted_form_is_search .unreachable state t .none [] hquery (Search.ofForm_of_asks hasks)
      (Search.provinceOf_eq_ok_iff.mpr hasks.province)
      (Search.municipalityOf_eq_ok_iff.mpr hasks.municipality) hlisted
      (by rintro _ ⟨⟩; exact ⟨narrowAreas, rfl, _, List.mem_cons_self, rfl⟩)
  exact ⟨page, rendered, hpage, hforms, hsome, hall⟩

end Session

end StationFinder
