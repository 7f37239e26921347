import StationFinder.Proofs.Search.Answer
import StationFinder.Proofs.Session.Calls

/-!
# Proofs/Server/Questions — what a request asks of the source

Apart from the page, an address asks at most one question of the source.  Which one that is can be
told from the request (`Http.Request.Poses`), and so can whether there is one at all, whatever the
source has to say.  A request that poses a question is answered with what it comes to
(`Server.answersWith_of_poses`); one that poses none is refused, and nothing is asked
(`Server.refused_of_not_poses`).
-/

namespace StationFinder

variable {σ α β : Type} {network : Network σ} {clock : Option Instant} {assets : Server.Assets}
  {request : Http.Request} {route : Http.Route} {query : Query}

/-- What is made of the value of an inquiry does not change what is asked. -/
theorem Inquiry.calls_map (f : α → β) (inquiry : Inquiry α) (state : SourceState σ) :
    (f <$> inquiry).calls network clock state = inquiry.calls network clock state := by
  show (inquiry.bind fun a => done (f a)).calls network clock state = _
  induction inquiry generalizing state with
  | done a => rfl
  | asks query next ih =>
    exact congrArg (Call.mk query state :: ·) (ih _ _)
  | looks next ih =>
    cases clock with
    | some t => exact ih t state
    | none => rfl

/-! ## The question of a request -/

/-- Whether an address is there to answer one question. -/
def Http.Route.asksOnce : Http.Route → Bool
  | provinces | municipalities _ | stations => true
  | index | health | asset => false

/-- A request for what an address names poses a question: for the provinces in any case, for the
municipalities if the path has the id of a province in it, blanks aside, and for stations if the
query holds a form that asks for a search. -/
inductive Http.Request.Poses (request : Http.Request) : Http.Route → Query → Prop
  | provinces : Poses request .provinces .provinces
  | municipalities {segment : List Char} {text : String} {province : ProvinceId}
      (hsegment : Http.Route.decodeSegment? segment = some text)
      (hid : Text.trimmed text = province.text) :
      Poses request (.municipalities segment) (.municipalities province)
  | stations {form : SearchForm} {province : ProvinceId} {municipality : Option MunicipalityId}
      {fuel : Option Fuel} {openNow : Bool}
      (hquery : SearchForm.ofQuery (Text.Utf8.encode request.target.query) = .ok form)
      (hform : form.Asks province municipality fuel openNow) :
      Poses request .stations (.stations (.narrowest province municipality))

/-- A request for the stations of a province. -/
theorem Http.Request.poses_stations_of_province (accept : List (List UInt8)) :
    (Http.Request.get "/stations" "province=28".toList accept).Poses .stations
      (.stations (.province ⟨"28", by decide⟩)) := by
  have hpairs : Text.Form.decode (Text.Utf8.encode "province=28".toList)
      = [("province", "28")] := by
    decide +kernel
  have hquery : SearchForm.ofQuery (Text.Utf8.encode "province=28".toList)
      = .ok ⟨some "28", none, none, none⟩ := by
    rw [SearchForm.ofQuery, hpairs]
    rfl
  have hform : SearchForm.Asks ⟨some "28", none, none, none⟩ ⟨"28", by decide⟩ none none false :=
    ⟨by decide, by decide, by decide, by decide⟩
  exact .stations hquery hform

namespace Server

theorem settle_map (respond : β → Http.Response) (f : α → β) (outcome : Except SourceFault α) :
    settle respond ((outcome.map f).mapError Failure.ofSource)
      = settle (respond ∘ f) (outcome.mapError Failure.ofSource) := by
  cases outcome <;> rfl

/-- An inquiry asks one question and nothing else, and makes a response of what it comes to: what is
found is shown, and a fault is told. -/
def AnswersWith (network : Network σ) (t : Instant) (query : Query)
    (inquiry : Inquiry Http.Response) : Prop :=
  ∃ present : query.Found → Http.Response, (∀ found, (present found).status = 200)
    ∧ ∀ state, inquiry.calls network (some t) state = [⟨query, state⟩]
      ∧ inquiry.run network (some t) state
        = (some (settle present ((SourceM.ask network query state).1.mapError Failure.ofSource)),
          (SourceM.ask network query state).2)

theorem answersWith_runSearch (network : Network σ) (t : Instant) (search : Search)
    {respond : SearchResult → Http.Response} (hrespond : ∀ result, (respond result).status = 200) :
    AnswersWith network t (.stations search.scope) (settle respond <$> runSearch search) := by
  refine ⟨respond ∘ SearchResult.ofStations search t, fun found => hrespond _,
    fun state => ⟨?_, ?_⟩⟩
  · rw [Inquiry.calls_map]
    rfl
  · rw [Inquiry.run_map, run_runSearch]
    exact congrArg (fun response => (some response, _)) (settle_map _ _ _)

/-- **A request that poses a question is answered with what the question comes to.** -/
theorem answersWith_of_poses (network : Network σ) (t : Instant) (h : request.Poses route query) :
    AnswersWith network t query (handle assets request route) := by
  cases h with
  | provinces => exact ⟨_, fun _ => rfl, fun state => ⟨rfl, rfl⟩⟩
  | @municipalities segment text province hsegment hid =>
    have hparse : AreaId.parseTrimmed text = .ok province := AreaId.parse_eq_ok_iff.mpr hid
    rw [handle, municipalities, hsegment]
    simp only [hparse]
    exact ⟨_, fun _ => rfl, fun state => ⟨rfl, rfl⟩⟩
  | stations hquery hform =>
    rw [handle, withForm_of_ok hquery, stations_eq_map, findStations, Search.ofForm_of_asks hform]
    exact answersWith_runSearch network t _ (status_present request.acceptsHtml)

/-- **A request that poses no question is refused**, whatever the source has to say. -/
theorem refused_of_not_poses (hroute : route.asksOnce = true)
    (h : ∀ query, ¬ request.Poses route query) :
    ∃ response : Http.Response,
      handle assets request route = pure response ∧ response.status = 400 := by
  cases route with
  | index | health | asset => cases hroute
  | provinces => exact absurd .provinces (h .provinces)
  | municipalities segment =>
    rw [handle, municipalities]
    rcases hsegment : Http.Route.decodeSegment? segment with _ | text
    · exact ⟨_, rfl, rfl⟩
    · rcases hparse : (AreaId.parseTrimmed text : Except _ ProvinceId) with fault | province
      · simp only [hparse]
        exact ⟨_, rfl, rfl⟩
      · exact absurd (.municipalities hsegment (AreaId.parse_eq_ok_iff.mp hparse)) (h _)
  | stations =>
    rw [handle]
    rcases hquery : SearchForm.ofQuery (Text.Utf8.encode request.target.query) with repeated | form
    · rw [withForm_of_error hquery]
      exact ⟨_, rfl, rfl⟩
    · rw [withForm_of_ok hquery, stations_eq_map, findStations]
      rcases hsearch : Search.ofForm form with fault | search
      · exact ⟨_, rfl, rfl⟩
      · obtain ⟨province, municipality, hasks, -⟩ := Search.ofForm_eq_ok_iff.mp hsearch
        exact absurd (.stations hquery hasks) (h _)

/-- A request to read an address is left to the handler of the address. -/
theorem respond_of_get (hget : request.method = "GET")
    (hroute : Http.Route.ofPath? request.target.path = some route) :
    respond assets request = handle assets request route := by
  rw [respond, hroute]
  exact if_pos (.inl hget)

end Server

end StationFinder
