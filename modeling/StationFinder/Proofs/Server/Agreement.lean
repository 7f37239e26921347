import StationFinder.Proofs.Page.Sections
import StationFinder.Proofs.Search.Answer
import StationFinder.Proofs.Source.Settled

/-!
# Proofs/Server/Agreement — the page shows what the address of the stations answers

A search can be made in two ways: on the page, and at the address of the stations.  The page asks
for more than the search does, for the provinces and the municipalities of one of them, and it has
an answer where the address only has a failure.  Over a settled source nothing of this matters: what
the page shows is what the address answers, a list or a complaint
(`Session.page_agrees_with_stations`).  Which sources are settled is said in `Source/Settled`: all
directories of files, and the price service while nothing changes there, cached or not.
-/

namespace StationFinder

variable {σ : Type} {network : Network σ} {answers : (query : Query) → query.Outcome}
  {state state' : SourceState σ} {form : SearchForm} {t : Instant}

/-- **A failure is read back.** -/
theorem Failure.decode_text (failure : Failure) :
    Json.decode Json.readAny failure.toJson.text = .ok failure.toJson := by
  refine Json.decode_text (Json.readAny_object ?_)
  intro m hm
  rw [List.mem_singleton.mp hm]
  exact Json.readAny_string _ _

namespace Server

/-! ## What is answered where the answers of the source are known -/

theorem eval_stations (html : Bool) : (stations html form).eval answers t
    = settle (present html) ((findStations form).eval answers t) := by
  rw [stations_eq_map, Inquiry.eval_map]

theorem eval_submittedSearch : (submittedSearch form).eval answers t
    = if form.province.isSome then some ((findStations form).eval answers t) else none := by
  rw [submittedSearch]
  split
  · rw [Inquiry.eval_map]
  · rfl

/-- Where the provinces are known, there is a page, whatever becomes of the municipalities. -/
theorem eval_index {provinces : List Province} (h : answers .provinces = .ok provinces)
    (form : SearchForm) (t : Instant) : (index form).eval answers t
      = .page (indexPage form provinces
        ((offeredMunicipalities (form.filled? .province)).eval answers t)
        (if form.province.isSome then some ((findStations form).eval answers t)
          else none)).markup := by
  simp only [index, Inquiry.eval_bind, Inquiry.eval_ask, h, eval_submittedSearch, Inquiry.eval_pure]

end Server

/-- What a page shows is what an address answers: its list, or what it complains about. -/
structure Http.Response.Shows (page listed : Http.Response) : Prop where
  list : listed.status = 200 → ShowsList page.body listed.body
  complaint : listed.status ≠ 200 → ∃ message,
    Json.decode Json.readAny listed.body = .ok (.object [("error", .string message)])
      ∧ ShowsComplaint page.body message

/-- The page of a search shows what the address of the stations answers. -/
theorem Server.indexPage_shows (form : SearchForm) (provinces : List Province)
    (municipalities : List Municipality) (outcome : Except Failure SearchResult) :
    (Http.Response.page (indexPage form provinces municipalities (some outcome)).markup).Shows
      (settle (present true) outcome) := by
  cases outcome with
  | ok result => exact ⟨fun _ => IndexPage.showsList rfl rfl, fun hbad => absurd rfl hbad⟩
  | error failure =>
    refine ⟨fun hok => ?_, fun _ =>
      ⟨failure.message, failure.decode_text, IndexPage.showsComplaint rfl rfl⟩⟩
    cases failure <;> cases hok

/-- Over a settled source a visit comes to what the answers make of it. -/
theorem Session.step_of_isSettled (h : SourceM.IsSettled network answers state) (t : Instant)
    (assets : Server.Assets) (request : Http.Request) :
    (step network (.visit (some t) assets request) state).1
      = .response ((Server.respond assets request).eval answers t) := by
  obtain ⟨state', hrun, -⟩ := h.run t (Server.respond assets request)
  rw [step_visit hrun]

/-- **The page and the address of the stations agree.**  Let two sources be settled and have the
same answers, such as one directory of files twice, or the price service, where nothing changes,
with a cache and without.  If they have provinces, there is a page for every form that a query
holds.  When a province was submitted, blank or not, the page shows what the address answers to the
same query at the same instant; otherwise it shows nothing of a search. -/
theorem Session.page_agrees_with_stations (hstate : SourceM.IsSettled network answers state)
    (hstate' : SourceM.IsSettled network answers state') {provinces : List Province}
    (hprovinces : answers .provinces = .ok provinces) {query : List Char}
    (hquery : SearchForm.ofQuery (Text.Utf8.encode query) = .ok form)
    (accept accept' : List (List UInt8))
    (haccept : (Http.Request.get "/stations" query accept).acceptsHtml = true) (t : Instant)
    (assets assets' : Server.Assets) :
    ∃ page listed,
      (step network (.visit (some t) assets' (.get "/" query accept')) state').1 = .response page
        ∧ (step network (.visit (some t) assets (.get "/stations" query accept)) state).1
          = .response listed
        ∧ page.status = 200
        ∧ (form.province.isSome = true → page.Shows listed)
        ∧ (form.province = none → ShowsNothing page.body) := by
  have hpage := Server.eval_index hprovinces form t
  refine ⟨_, _, step_of_isSettled hstate' t _ _, step_of_isSettled hstate t _ _, ?_⟩
  rw [Server.respond_index, Server.respond_stations, Server.withForm_of_ok hquery,
    Server.withForm_of_ok hquery, Server.eval_stations, haccept, hpage]
  refine ⟨rfl, fun hprovince => ?_, fun hprovince => ?_⟩
  · rw [if_pos hprovince]
    exact Server.indexPage_shows _ _ _ _
  · rw [hprovince, if_neg (by simp)]
    exact IndexPage.showsNothing rfl rfl

/-- Two visitors ask for the stations of a province without any, one at each address. -/
theorem Session.page_shows_list_of_files :
    let t := Instant.ofMinutes 720
    let fixtures : Fixtures := ⟨[], .empty, Table.empty.insert "28" [], .empty⟩
    let state : SourceState Unit := ⟨.fixtures fixtures, 0, (), []⟩
    let html : List (List UInt8) := [[116, 101, 120, 116, 47, 104, 116, 109, 108]]
    ∃ page listed,
      (step Network.unreachable
          (.visit (some t) .none (.get "/" "province=28".toList html)) state).1 = .response page
        ∧ (step Network.unreachable
          (.visit (some t) .none (.get "/stations" "province=28".toList html)) state).1
          = .response listed
        ∧ page.status = 200 ∧ listed.status = 200 ∧ ShowsList page.body listed.body := by
  intro t fixtures state html
  have hsettled : SourceM.IsSettled Network.unreachable
      (fun query => (SourceM.ask Network.unreachable query state).1) state := .of_fixtures rfl
  have hpairs : Text.Form.decode (Text.Utf8.encode "province=28".toList)
      = [("province", "28")] := by
    decide +kernel
  have hquery : SearchForm.ofQuery (Text.Utf8.encode "province=28".toList)
      = .ok ⟨some "28", none, none, none⟩ := by
    rw [SearchForm.ofQuery, hpairs]
    rfl
  have hasks : SearchForm.Asks ⟨some "28", none, none, none⟩ ⟨"28", by decide⟩ none none false :=
    ⟨by decide, by decide, by decide, by decide⟩
  obtain ⟨page, listed, hpage, hlisted, hstatus, hshows, -⟩ :=
    Session.page_agrees_with_stations hsettled hsettled rfl hquery html html (by decide) t
      .none .none
  have hok : listed.status = 200 := by
    rw [Answer.response.inj (hlisted.symm.trans (step_of_isSettled hsettled t _ _)),
      Server.respond_stations, Server.withForm_of_ok hquery, Server.eval_stations,
      Server.findStations, Search.ofForm_of_asks hasks]
    exact Server.status_present _ _
  exact ⟨page, listed, hpage, hlisted, hstatus, hok, (hshows rfl).list hok⟩

end StationFinder
