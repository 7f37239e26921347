import StationFinder.Proofs.Area.Ids
import StationFinder.Proofs.Server.Blame
import StationFinder.Proofs.Session.Transparency
import Mathlib.Data.List.Flatten

/-!
# Proofs/Session/Requests — where requests go

What a visitor writes reaches the address of a request in one place only: the id of an area, which
is one to five digits.  So there are few addresses to which requests go, and all of them begin with
the one that was set (`ApiRequest.isConfined_ofQuery`).  `Sends` follows the requests that a source
hands over in the course of a session: they are some of those by which the questions of the session
are asked, and a request from a visitor that is refused asks nothing
(`Session.requests_keep_to_paths`).
-/

namespace StationFinder

variable {σ α : Type} {network : Network σ} {config : ClientConfig} {query : Query}
  {state before mid after : SourceState σ} {calls calls' : List (Call σ)}
  {clock : Option Instant} {assets : Server.Assets} {url : String}

/-! ## Addresses -/

/-- The paths that the price service has. -/
inductive IsServicePath : String → Prop
  | provinces : IsServicePath "/Listados/Provincias/"
  | municipalities {d : String} (h : IsDigits d) :
      IsServicePath ("/Listados/MunicipiosPorProvincia/" ++ d)
  | stationsOfProvince {d : String} (h : IsDigits d) :
      IsServicePath ("/EstacionesTerrestres/FiltroProvincia/" ++ d)
  | stationsOfMunicipality {d : String} (h : IsDigits d) :
      IsServicePath ("/EstacionesTerrestres/FiltroMunicipio/" ++ d)

namespace Query

theorem path_provinces : provinces.path = "/Listados/Provincias/" := rfl

theorem path_municipalities (province : ProvinceId) :
    (municipalities province).path = "/Listados/MunicipiosPorProvincia/" ++ province.text := rfl

theorem path_stations_province (id : ProvinceId) : (stations (.province id)).path
    = "/EstacionesTerrestres/FiltroProvincia/" ++ id.text := rfl

theorem path_stations_municipality (id : MunicipalityId) : (stations (.municipality id)).path
    = "/EstacionesTerrestres/FiltroMunicipio/" ++ id.text := rfl

/-- Every question has one of these paths. -/
theorem isServicePath (query : Query) : IsServicePath query.path := by
  have hdigits {kind : AreaKind} (id : AreaId kind) : IsDigits id.text :=
    isDigits_of_isIdText id.isIdText
  match query with
  | provinces => exact .provinces
  | municipalities province => exact .municipalities (hdigits province)
  | stations (.province id) => exact .stationsOfProvince (hdigits id)
  | stations (.municipality id) => exact .stationsOfMunicipality (hdigits id)

/-- **No two questions have the same path.** -/
theorem path_injective : Function.Injective path := by
  rintro (_ | province | (id | id)) (_ | province' | (id' | id')) h
  all_goals simp [path_provinces, path_municipalities, path_stations_province,
    path_stations_municipality, ← String.toList_inj] at h
  · rfl
  all_goals rw [AreaId.eq_of_text_eq (String.toList_inj.mp h)]

theorem length_requests (config : ClientConfig) (query : Query) :
    (query.requests config).length ≤ 1 := by
  rw [requests]
  split <;> simp

theorem eq_of_mem_requests {request : ApiRequest} (h : request ∈ query.requests config) :
    request = .ofQuery config query := by
  rw [requests] at h
  split at h
  · exact List.mem_singleton.mp h
  · cases h

end Query

/-- A request goes to the address that was set, without the slashes at its end, and there to a path
that the service has. -/
def ApiRequest.IsConfined (url : String) (request : ApiRequest) : Prop :=
  ∃ base slashes path, url.toList = base ++ List.replicate slashes '/' ∧ base.getLast? ≠ some '/'
    ∧ IsServicePath path ∧ request.url.toList = base ++ path.toList

/-- **A question is asked at an address that was set**, whatever it asks for. -/
theorem ApiRequest.isConfined_ofQuery (config : ClientConfig) (url : String) (query : Query) :
    (ofQuery (config.withBaseUrl url) query).IsConfined url := by
  obtain ⟨slashes, hurl, hlast⟩ := Text.exists_eq_dropTrailing_append '/' url.toList
  refine ⟨_, slashes, query.path, hurl, hlast, query.isServicePath, ?_⟩
  show (String.ofList _ ++ query.path).toList = _
  rw [String.toList_append, String.toList_ofList]

/-! ## What a source sends -/

/-- From one state to another a source is asked some questions.  It keeps its settings, and what is
sent are some of the requests by which these questions are asked, in their order. -/
structure Sends (config : ClientConfig) (calls : List (Call σ)) (before after : SourceState σ) :
    Prop where
  config_eq : after.source.config? = some config
  sent : ∃ sent, after.sent = before.sent ++ sent
    ∧ sent.Sublist (calls.flatMap fun call => call.query.requests config)

namespace Sends

/-- Nothing is sent where nothing is added to what was sent. -/
theorem nothing (hconfig : after.source.config? = some config) (hsent : after.sent = before.sent) :
    Sends config calls before after :=
  ⟨hconfig, [], by rw [hsent, List.append_nil], List.nil_sublist _⟩

theorem trans (h : Sends config calls before mid) (h' : Sends config calls' mid after) :
    Sends config (calls ++ calls') before after := by
  obtain ⟨-, sent, hsent, hsub⟩ := h
  obtain ⟨hconfig, sent', hsent', hsub'⟩ := h'
  refine ⟨hconfig, sent ++ sent', ?_, ?_⟩
  · rw [hsent', hsent, List.append_assoc]
  · rw [List.flatMap_append]
    exact hsub.append hsub'

variable (h : state.source.config? = some config)

include h

/-- **A question is sent once or not at all.** -/
theorem ask (network : Network σ) (query : Query) :
    Sends config [⟨query, state⟩] state (SourceM.ask network query state).2 := by
  have hrequests : [Call.mk query state].flatMap (fun call => call.query.requests config)
      = query.requests config := List.append_nil _
  obtain hask | ⟨config', source, hconfig, hkeeps, hask⟩ := SourceM.ask_frame network query state
  · rw [hask]
    exact nothing h rfl
  · obtain rfl := Option.some.inj (h.symm.trans hconfig)
    rw [hask]
    exact ⟨hkeeps, _, rfl, hrequests ▸ .refl _⟩

theorem run (network : Network σ) (clock : Option Instant) (inquiry : Inquiry α) :
    Sends config (inquiry.calls network clock state) state
      (inquiry.run network clock state).2 := by
  induction inquiry generalizing state with
  | done a => exact nothing h rfl
  | asks query next ih =>
    have hask := ask h network query
    exact hask.trans (ih _ hask.config_eq)
  | looks next ih =>
    cases clock with
    | some t => exact ih t h
    | none => exact nothing h rfl

/-- **A step sends some of the requests by which its questions are asked.** -/
theorem step (network : Network σ) (step : Step σ) :
    Sends config (Session.stepCalls network step state) state
      (Session.step network step state).2 := by
  cases step with
  | provinces => exact ask h network .provinces
  | municipalities province => exact ask h network (.municipalities province)
  | stations scope => exact ask h network (.stations scope)
  | visit clock assets request => exact run h network clock (Server.respond assets request)
  | reload directory =>
    have hfixtures : ∀ fixtures, state.source ≠ .fixtures fixtures := by
      intro fixtures hsource
      rw [hsource] at h
      cases h
    have hstate : (Session.step network (.reload directory) state).2 = state :=
      congrArg Prod.snd (SourceM.reload_eq directory hfixtures)
    rw [hstate]
    exact nothing h rfl
  | advance nanoseconds => exact nothing h rfl
  | evict province =>
    obtain ⟨source, clock, memory, sent⟩ := state
    cases source <;> exact nothing h rfl
  | rewire change => exact nothing h rfl

end Sends

/-! ## Visits without a clock -/

namespace Inquiry

/-- Without a clock no more is asked than with one. -/
theorem calls_none_sublist (network : Network σ) (t : Instant) (inquiry : Inquiry α)
    (state : SourceState σ) :
    (inquiry.calls network none state).Sublist (inquiry.calls network (some t) state) := by
  induction inquiry generalizing state with
  | done a => exact .slnil
  | asks query next ih => exact (ih _ _).cons_cons _
  | looks next _ => exact List.nil_sublist _

/-- What comes to something without a clock takes no look at one. -/
theorem run_of_run_none {a : α} {inquiry : Inquiry α} (t : Instant)
    (h : inquiry.run network none state = (some a, after)) :
    inquiry.run network (some t) state = (some a, after) := by
  induction inquiry generalizing state with
  | done a => exact h
  | asks query next ih => exact ih _ h
  | looks next _ => cases h

/-- Whatever the clock shows, things go as at some instant, as far as they do. -/
theorem exists_instant (network : Network σ) (clock : Option Instant) (inquiry : Inquiry α)
    (state : SourceState σ) :
    ∃ t, (inquiry.calls network clock state).Sublist (inquiry.calls network (some t) state)
      ∧ ∀ a after, inquiry.run network clock state = (some a, after) →
        inquiry.run network (some t) state = (some a, after) :=
  match clock with
  | some t => ⟨t, .refl _, fun _ _ h => h⟩
  | none => ⟨.ofMinutes 0, calls_none_sublist network _ inquiry state,
      fun _ _ h => run_of_run_none _ h⟩

end Inquiry

/-! ## What a visit asks -/

namespace Session

variable {request : Http.Request} {route : Http.Route}

/-- A request that poses a question asks nothing else. -/
theorem stepCalls_sublist_of_poses (network : Network σ) (clock : Option Instant)
    (assets : Server.Assets) (state : SourceState σ) (hget : request.method = "GET")
    (hroute : Http.Route.ofPath? request.target.path = some route)
    (h : request.Poses route query) :
    (stepCalls network (.visit clock assets request) state).Sublist [⟨query, state⟩] := by
  show ((Server.respond assets request).calls network clock state).Sublist _
  rw [Server.respond_of_get hget hroute]
  obtain ⟨t, hcalls, -⟩ :=
    Inquiry.exists_instant network clock (Server.handle assets request route) state
  obtain ⟨_, -, hanswers⟩ := Server.answersWith_of_poses network t h
  have hposed := (hanswers state).1
  rwa [hposed] at hcalls

/-- **A request that is refused asks nothing.** -/
theorem stepCalls_of_refused (hget : request.method = "GET")
    (hroute : Http.Route.ofPath? request.target.path = some route) (hasks : route.asksOnce = true)
    {response : Http.Response}
    (hresponse : (step network (.visit clock assets request) state).1 = .response response)
    (hstatus : response.status = 400) :
    stepCalls network (.visit clock assets request) state = [] := by
  have hposes : ∀ query, ¬ request.Poses route query := by
    intro query hquery
    have hrun := run_of_step_visit hresponse
    obtain ⟨t, -, hsame⟩ :=
      Inquiry.exists_instant network clock (Server.respond assets request) state
    have hrun' := hsame response _ (Prod.ext hrun rfl)
    rw [Server.respond_of_get hget hroute] at hrun'
    obtain ⟨-, htells⟩ := Server.tells_of_poses hquery hrun'
    exact htells.status_ne hstatus
  obtain ⟨refusal, hrefusal, -⟩ := Server.refused_of_not_poses hasks hposes
  show (Server.respond assets request).calls network clock state = []
  rw [Server.respond_of_get hget hroute, hrefusal]
  rfl

/-- What is told of a step shows that its requests went where they may.  They are confined.  There
are none where a request from a visitor was refused; and where one is for stations and in order,
there is one at most, and it is for the municipality if one is given and for the province otherwise.
-/
structure KeepsToPaths (url : String) (step : Step σ) (told : Answer × List ApiRequest) : Prop where
  confined : ∀ sent ∈ told.2, sent.IsConfined url
  refused : ∀ clock assets request route response, step = .visit clock assets request →
    request.method = "GET" → Http.Route.ofPath? request.target.path = some route →
    route.asksOnce = true → told.1 = .response response → response.status = 400 → told.2 = []
  search : ∀ clock assets request form province municipality fuel openNow,
    step = .visit clock assets request → request.method = "GET" →
    Http.Route.ofPath? request.target.path = some .stations →
    SearchForm.ofQuery (Text.Utf8.encode request.target.query) = .ok form →
    form.Asks province municipality fuel openNow →
    told.2.length ≤ 1
      ∧ ∀ sent ∈ told.2, sent.path = Query.path (.stations (.narrowest province municipality))

theorem watchStep_keepsToPaths (network : Network σ)
    (h : state.source.config? = some (config.withBaseUrl url)) (step : Step σ) :
    KeepsToPaths url step (watchStep network step state).1
      ∧ (watchStep network step state).2.source.config? = some (config.withBaseUrl url) := by
  obtain ⟨hconfig, sent, hsent, hsub⟩ := Sends.step h network step
  have htold : (watchStep network step state).1 = ((Session.step network step state).1, sent) := by
    show (_, (Session.step network step state).2.sent.drop _) = _
    rw [hsent, List.drop_left]
    rfl
  refine ⟨?_, hconfig⟩
  rw [htold]
  refine ⟨fun request hrequest => ?confined, ?refused, ?search⟩
  case confined =>
    obtain ⟨call, -, hmem⟩ := List.mem_flatMap.mp (hsub.mem hrequest)
    rw [Query.eq_of_mem_requests hmem]
    exact ApiRequest.isConfined_ofQuery config url call.query
  case refused =>
    rintro clock assets request route response rfl hget hroute hasks hresponse hstatus
    rw [stepCalls_of_refused hget hroute hasks hresponse hstatus] at hsub
    exact List.sublist_nil.mp hsub
  case search =>
    rintro clock assets request form province municipality fuel openNow rfl hget hroute hquery
      hform
    have hcalls := stepCalls_sublist_of_poses network clock assets state hget hroute
      (.stations hquery hform)
    have hrequests := hsub.trans (hcalls.flatMap _)
    rw [List.flatMap_singleton] at hrequests
    refine ⟨hrequests.length_le.trans (Query.length_requests _ _), fun request hrequest => ?_⟩
    rw [Query.eq_of_mem_requests (hrequests.mem hrequest)]
    rfl

theorem watch_keepsToPaths (network : Network σ)
    (h : state.source.config? = some (config.withBaseUrl url)) (steps : List (Step σ)) :
    List.Forall₂ (KeepsToPaths url) steps (watch network steps state).1 := by
  induction steps generalizing state with
  | nil => exact .nil
  | cons step steps ih =>
    obtain ⟨hkeeps, hconfig⟩ := watchStep_keepsToPaths network h step
    simp only [watch, List.mapM_cons]
    exact .cons hkeeps (ih hconfig)

/-- **Requests keep to their paths.**  Let a source ask the price service at an address that was
set, with a cache or without.  Then whatever is asked of it in the course of a session, by visitors
or otherwise, and whatever the network does, each request that it hands over goes to this address
without the slashes at its end, and there to one of four paths, of which three end in an id of one
to five digits.  What a visitor asks for and is refused sends nothing, and a search sends one
request at most, for its area.  And no two questions have the same path. -/
theorem requests_keep_to_paths (network : Network σ) (config : ClientConfig) (url : String)
    (cacheConfig : CacheConfig) (source : Source)
    (hsource : Source.ofClient (config.withBaseUrl url) = .ok source
      ∨ Source.ofCachedClient (config.withBaseUrl url) cacheConfig = .ok source)
    (clock : Nat) (memory : σ) (sent : List ApiRequest) (steps : List (Step σ)) :
    List.Forall₂ (KeepsToPaths url) steps (watch network steps ⟨source, clock, memory, sent⟩).1
      ∧ Function.Injective Query.path := by
  have hconfig : source.config? = some (config.withBaseUrl url) := by
    rcases hsource with hclient | hcached
    · rw [Source.eq_of_ofClient hclient]
      rfl
    · obtain ⟨-, cache, -, rfl⟩ := Source.exists_cache_of_ofCachedClient hcached
      rfl
  exact ⟨watch_keepsToPaths network hconfig steps, Query.path_injective⟩

/-- A visitor asks for the stations of a province after someone asked for the provinces, and nobody
is there at the other end. -/
theorem search_keeps_to_path :
    let request := Http.Request.get "/stations" "province=28".toList []
    let steps := [.provinces, .visit (some (.ofMinutes 720)) .none request]
    ∃ source, Source.ofClient (ClientConfig.initial.withBaseUrl "http://h//") = .ok source
      ∧ List.Forall₂ (KeepsToPaths "http://h//") steps
        (watch .unreachable steps ⟨source, 0, (), []⟩).1 := by
  intro request steps
  have hclient : Source.ofClient (ClientConfig.initial.withBaseUrl "http://h//")
      = .ok (.client (ClientConfig.initial.withBaseUrl "http://h//")) := rfl
  obtain ⟨hkeeps, -⟩ := requests_keep_to_paths .unreachable .initial "http://h//" .initial _
    (.inl hclient) 0 () [] steps
  exact ⟨_, hclient, hkeeps⟩

end Session

end StationFinder
