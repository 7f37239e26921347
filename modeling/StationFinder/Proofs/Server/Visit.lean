import StationFinder.Session

/-!
# Proofs/Server/Visit — what a visitor gets

A visit carries out the inquiry that `Server.respond` plans.  When the clock shows a time, an
inquiry always comes to something (`Inquiry.exists_run`), and what is made of an inquiry's value
afterwards does not change how it goes (`Inquiry.run_map`).  So the page and the JSON answer of one
search are two views of one outcome (`Session.step_stations`).
-/

namespace StationFinder

variable {σ α β : Type} {network : Network σ} {state : SourceState σ} {t : Instant}
  {assets : Server.Assets}

/-- A request to read an address. -/
def Http.Request.get (path : String) (query : List Char) (accept : List (List UInt8)) :
    Http.Request where
  method := "GET"
  target := ⟨path.toList, query⟩
  accept := accept

namespace Inquiry

/-- What is made of the value of an inquiry does not change how the inquiry goes. -/
theorem run_map {clock : Option Instant} (f : α → β) (inquiry : Inquiry α)
    (state : SourceState σ) : (f <$> inquiry).run network clock state
      = ((inquiry.run network clock state).1.map f, (inquiry.run network clock state).2) := by
  show (inquiry.bind fun a => done (f a)).run network clock state = _
  induction inquiry generalizing state with
  | done a => rfl
  | asks query next ih => exact ih _ _
  | looks next ih =>
    cases clock with
    | some t => exact ih t state
    | none => rfl

/-- What comes to something does so step by step. -/
theorem exists_of_run_bind {clock : Option Instant} {inquiry : Inquiry α} {rest : α → Inquiry β}
    {state state' : SourceState σ} {b : β}
    (h : (inquiry >>= rest).run network clock state = (some b, state')) :
    ∃ a mid, inquiry.run network clock state = (some a, mid)
      ∧ (rest a).run network clock mid = (some b, state') := by
  induction inquiry generalizing state with
  | done a => exact ⟨a, state, rfl, h⟩
  | asks query next ih => exact ih _ h
  | looks next ih =>
    cases clock with
    | some t => exact ih t h
    | none => cases h

/-- **An inquiry comes to something**, when the clock shows a time. -/
theorem exists_run (network : Network σ) (t : Instant) (inquiry : Inquiry α)
    (state : SourceState σ) :
    ∃ a state', inquiry.run network (some t) state = (some a, state') := by
  induction inquiry generalizing state with
  | done a => exact ⟨a, state, rfl⟩
  | asks query next ih => exact ih _ _
  | looks next ih => exact ih t state

end Inquiry

namespace Server

/-- What is shown of a search: a part of a page, or JSON. -/
def present (html : Bool) (result : SearchResult) : Http.Response :=
  if html then .page (StationList.ofResult result).markup else .json 200 result.toJson

theorem stations_eq_map (html : Bool) (form : SearchForm) :
    stations html form = settle (present html) <$> findStations form := rfl

theorem status_present (html : Bool) (result : SearchResult) :
    (present html result).status = 200 := by
  cases html <;> rfl

theorem respond_stations (query : List Char) (accept : List (List UInt8)) :
    respond assets (.get "/stations" query accept)
      = withForm query (stations (Http.Request.get "/stations" query accept).acceptsHtml) := by
  have hroute : Http.Route.ofPath? "/stations".toList = some .stations := by decide
  simp only [respond, Http.Request.get, hroute, true_or, if_true]
  rfl

theorem respond_index (query : List Char) (accept : List (List UInt8)) :
    respond assets (.get "/" query accept) = withForm query index := by
  have hroute : Http.Route.ofPath? "/".toList = some .index := by decide
  simp only [respond, Http.Request.get, hroute, true_or, if_true]
  rfl

theorem withForm_of_ok {query : List Char} {form : SearchForm}
    (h : SearchForm.ofQuery (Text.Utf8.encode query) = .ok form)
    (handler : SearchForm → Inquiry Http.Response) : withForm query handler = handler form := by
  rw [withForm, h]

theorem withForm_of_error {query : List Char} {repeated : SearchForm.RepeatedField}
    (h : SearchForm.ofQuery (Text.Utf8.encode query) = .error repeated)
    (handler : SearchForm → Inquiry Http.Response) : withForm query handler
      = return .plain 400 ("Failed to deserialize query string: " ++ repeated.message) := by
  rw [withForm, h]

/-- A search asks for the stations of its area and keeps those that are wanted. -/
theorem run_runSearch (network : Network σ) (search : Search) (t : Instant)
    (state : SourceState σ) : (runSearch search).run network (some t) state
      = (some (((SourceM.ask network (.stations search.scope) state).1.map
          (SearchResult.ofStations search t)).mapError Failure.ofSource),
        (SourceM.ask network (.stations search.scope) state).2) := rfl

end Server

namespace Session

/-- A visit comes to what its inquiry comes to. -/
theorem step_visit {request : Http.Request} {response : Http.Response} {state' : SourceState σ}
    (h : (Server.respond assets request).run network (some t) state = (some response, state')) :
    step network (.visit (some t) assets request) state = (.response response, state') := by
  show (((((Server.respond assets request).run network (some t) state).1).map
    Answer.response).getD .breakdown, _) = _
  rw [h]
  rfl

/-- What a visitor gets is what the inquiry comes to. -/
theorem run_of_step_visit {clock : Option Instant} {request : Http.Request}
    {response : Http.Response}
    (h : (step network (.visit clock assets request) state).1 = .response response) :
    ((Server.respond assets request).run network clock state).1 = some response := by
  replace h : (((Server.respond assets request).run network clock state).1.map Answer.response).getD
    .breakdown = .response response := h
  rcases hrun : ((Server.respond assets request).run network clock state).1 with _ | answer
  · rw [hrun] at h
    cases h
  · rw [hrun] at h
    exact congrArg some (Answer.response.inj h)

/-- **One search is behind every presentation of it.** -/
theorem step_stations (network : Network σ) (t : Instant) {query : List Char} {form : SearchForm}
    (hquery : SearchForm.ofQuery (Text.Utf8.encode query) = .ok form) (state : SourceState σ) :
    ∃ outcome state', (Server.findStations form).run network (some t) state
        = (some outcome, state')
      ∧ ∀ assets accept,
        step network (.visit (some t) assets (.get "/stations" query accept)) state
          = (.response (Server.settle
            (Server.present (Http.Request.get "/stations" query accept).acceptsHtml) outcome),
            state') := by
  obtain ⟨outcome, state', hrun⟩ := Inquiry.exists_run network t (Server.findStations form) state
  refine ⟨outcome, state', hrun, fun assets accept => step_visit ?_⟩
  rw [Server.respond_stations, Server.withForm_of_ok hquery, Server.stations_eq_map,
    Inquiry.run_map, hrun]
  rfl

end Session

end StationFinder
