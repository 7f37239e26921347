import StationFinder.Proofs.Server.Agreement
import StationFinder.Proofs.Server.Questions

/-!
# Proofs/Server/Blame — whose fault it is

A request may fail in three ways: it is not in order, the price service fails, or the server itself
does.  Which it is stands in the status of the response.  The source decides between the last two,
whatever goes wrong: the price service, with a cache in front of it or without, only has faults of a
remote party, and files only have faults of the server (`SourceM.isRemote_of_ask`).  The page has
its own rule: it is there exactly if there are provinces (`Server.status_of_run_pageFor`).
-/

namespace StationFinder

variable {σ : Type} {network : Network σ} {state state' : SourceState σ} {query : Query}
  {fault : SourceFault} {request : Http.Request} {route : Http.Route} {t : Instant}

/-! ## The faults of a source -/

/-- Whether a source is the price service, with a cache in front of it or without. -/
def Source.isRemote : Source → Bool
  | fixtures _ => false
  | client _ | cached _ _ => true

/-- The statuses of responses that come from what a source says. -/
def Source.statuses : Source → List Nat
  | fixtures _ => [200, 400, 500]
  | client _ | cached _ _ => [200, 400, 502]

/-- The fault of an answer that cannot be used is that of who sent it. -/
theorem Reply.isRemote_of_read {α : Type} {reply : Reply} {decoder : Json.Decoder α}
    (h : reply.read decoder = .error fault) : fault.isRemote = true := by
  cases reply with
  | nothing exchange => cases h; rfl
  | answer status body =>
    simp only [read] at h
    split at h
    · cases h; rfl
    split at h
    · cases h; rfl
    cases body with
    | none => cases h; rfl
    | some body =>
      obtain ⟨reason, -, rfl⟩ := mapError_eq_error_iff.mp h
      rfl

theorem Query.isRemote_of_read {reply : Reply} (h : query.read reply = .error fault) :
    fault.isRemote = true := by
  cases query with
  | provinces | municipalities _ => exact Reply.isRemote_of_read (map_eq_error_iff.mp h)
  | stations _ =>
    rcases bind_eq_error_iff.mp h with hread | ⟨answer, -, haccepted⟩
    · exact Reply.isRemote_of_read hread
    · rw [StationsReply.accepted] at haccepted
      split at haccepted <;> cases haccepted
      rfl

theorem Fixtures.isRemote_of_answer {fixtures : Fixtures}
    (h : fixtures.answer query = .error fault) : fault.isRemote = false := by
  cases query with
  | provinces => cases h
  | municipalities province =>
    rw [answer, listMunicipalities] at h
    split at h <;> cases h
    rfl
  | stations scope =>
    rw [answer, listStations] at h
    split at h <;> cases h
    rfl

namespace SourceM

theorem isRemote_of_fetch {config : ClientConfig}
    (h : (fetch network config query state).1 = .error fault) : fault.isRemote = true := by
  rcases hdestination : (ApiRequest.ofQuery config query).destination with exchange | address
  · rw [fetch_of_error hdestination] at h
    cases h
    rfl
  · rw [fetch_of_ok hdestination] at h
    exact Query.isRemote_of_read h


/-- **The fault is that of the price service if the source is**, and never otherwise. -/
theorem isRemote_of_ask (h : (ask network query state).1 = .error fault) :
    fault.isRemote = state.source.isRemote := by
  rcases hsource : state.source with fixtures | config | ⟨config, cache⟩
  · rw [ask_fixtures_eq network query hsource] at h
    exact Fixtures.isRemote_of_answer h
  · rw [ask_client hsource] at h
    exact isRemote_of_fetch h
  · rcases hkept : cache.kept? state.clock query with _ | found
    · rw [ask_of_not_kept? network hsource hkept] at h
      exact isRemote_of_fetch h
    · rw [ask_of_kept? network hsource hkept] at h
      cases h

end SourceM

/-! ## The statuses of failures -/

namespace Failure

theorem status_ne_ok (failure : Failure) : failure.status ≠ 200 := by
  cases failure <;> simp [status]

/-- What goes wrong with a source is not blamed on the visitor. -/
theorem status_ofSource_ne (fault : SourceFault) : (ofSource fault).status ≠ 400 := by
  rw [ofSource]
  cases fault.isRemote <;> simp [status]

theorem message_ofSource (fault : SourceFault) : (ofSource fault).message = fault.message := by
  rw [ofSource]
  cases fault.isRemote <;> rfl

theorem status_ofSource_mem {source : Source} (h : fault.isRemote = source.isRemote) :
    (ofSource fault).status ∈ source.statuses := by
  rw [ofSource, h]
  cases source <;> simp [Source.isRemote, Source.statuses, status]

/-- **The message of a fault is read in the response.** -/
theorem decode_response_ofSource (fault : SourceFault) :
    Json.decode Json.readAny (ofSource fault).response.body
      = .ok (.object [("error", .string fault.message)]) := by
  rw [← message_ofSource fault]
  exact (ofSource fault).decode_text

end Failure

theorem Source.ok_mem_statuses (source : Source) : 200 ∈ source.statuses := by
  cases source <;> simp [statuses]

theorem Source.badRequest_mem_statuses (source : Source) : 400 ∈ source.statuses := by
  cases source <;> simp [statuses]

/-! ## The page -/

namespace Server

/-- What becomes of the page when it is known what the source has to say about the provinces. -/
def pageFor (form : SearchForm) : Except SourceFault (List Province) → Inquiry Http.Response
  | .error fault => return (Failure.ofSource fault).response
  | .ok provinces => do
    let municipalities ← offeredMunicipalities (form.filled? .province)
    let search ← submittedSearch form
    return .page (indexPage form provinces municipalities search).markup

theorem index_eq_bind (form : SearchForm) : index form = Inquiry.ask .provinces >>= pageFor form :=
  rfl

/-- **There is a page exactly if there are provinces**, whatever comes of the municipalities and of
the search. -/
theorem status_of_run_pageFor {form : SearchForm} {outcome : Except SourceFault (List Province)}
    {clock : Option Instant} {response : Http.Response}
    (h : (pageFor form outcome).run network clock state = (some response, state')) :
    response.status = 200 ↔ ∃ provinces, outcome = .ok provinces := by
  cases outcome with
  | error fault =>
    obtain rfl := Option.some.inj (Prod.mk.inj h).1
    exact iff_of_false (Failure.status_ne_ok _) (by simp)
  | ok provinces =>
    obtain ⟨municipalities, mid, -, hsearch⟩ := Inquiry.exists_of_run_bind h
    obtain ⟨search, mid', -, hpage⟩ := Inquiry.exists_of_run_bind hsearch
    obtain rfl := Option.some.inj (Prod.mk.inj hpage).1
    exact iff_of_true rfl ⟨provinces, rfl⟩

end Server

/-! ## All addresses that ask the source -/

/-- A response is that to a question which came to an outcome over a source. -/
structure Http.Response.Tells (response : Http.Response) (source : Source) {query : Query}
    (outcome : query.Outcome) : Prop where
  status_mem : response.status ∈ source.statuses
  status_ne : response.status ≠ 400
  status_eq_ok_iff : response.status = 200 ↔ ∃ found, outcome = .ok found
  fault : ∀ fault, outcome = .error fault →
    Json.decode Json.readAny response.body = .ok (.object [("error", .string fault.message)])

theorem Server.settle_tells {present : query.Found → Http.Response}
    (hpresent : ∀ found, (present found).status = 200) (network : Network σ)
    (state : SourceState σ) :
    (settle present ((SourceM.ask network query state).1.mapError Failure.ofSource)).Tells
      state.source (SourceM.ask network query state).1 := by
  rcases houtcome : (SourceM.ask network query state).1 with fault | found
  · exact {
      status_mem := Failure.status_ofSource_mem (SourceM.isRemote_of_ask houtcome)
      status_ne := Failure.status_ofSource_ne fault
      status_eq_ok_iff := iff_of_false (Failure.status_ne_ok _) (by simp)
      fault := by rintro _ ⟨⟩; exact Failure.decode_response_ofSource fault }
  · have hstatus : (settle present ((Except.ok found : query.Outcome).mapError
        Failure.ofSource)).status = 200 := hpresent found
    exact {
      status_mem := by rw [hstatus]; exact state.source.ok_mem_statuses
      status_ne := by rw [hstatus]; decide
      status_eq_ok_iff := iff_of_true hstatus ⟨found, rfl⟩
      fault := by simp }

/-- A request that poses a question is told what the question comes to. -/
theorem Server.tells_of_poses (h : request.Poses route query) {response : Http.Response}
    (hrun : (handle assets request route).run network (some t) state = (some response, state')) :
    (handle assets request route).calls network (some t) state = [⟨query, state⟩]
      ∧ response.Tells state.source (SourceM.ask network query state).1 := by
  obtain ⟨present, hpresent, hanswers⟩ := answersWith_of_poses network t h
  obtain ⟨hcalls, hrun'⟩ := hanswers state
  obtain rfl := Option.some.inj (Prod.mk.inj (hrun.symm.trans hrun')).1
  exact ⟨hcalls, settle_tells hpresent network state⟩

namespace Session

/-- **A failure is blamed on who is at fault.**  A request for what an address names is answered
with a status that says so: over the price service, with a cache or without, it is never that of a
failing server, and over files it is never that of a failing price service.  It is the visitor's
fault exactly if the request poses no question, whatever the source has to say.  Otherwise the
source is asked this one question, all is well exactly if there is an answer to it, and if there is
none the response has the words of the source.  The page is there exactly if the provinces are,
whatever else goes wrong. -/
theorem failures_are_attributed (network : Network σ) (state : SourceState σ) (t : Instant)
    (assets : Server.Assets) (request : Http.Request) (hget : request.method = "GET")
    (route : Http.Route) (hroute : Http.Route.ofPath? request.target.path = some route) :
    ∃ response, (step network (.visit (some t) assets request) state).1 = .response response
      ∧ (route.asksOnce = true → response.status ∈ state.source.statuses
        ∧ (response.status = 400 ↔ ∀ query, ¬ request.Poses route query)
        ∧ ∀ query, request.Poses route query →
          stepCalls network (.visit (some t) assets request) state = [⟨query, state⟩]
            ∧ (response.status = 200 ↔ ∃ found, (SourceM.ask network query state).1 = .ok found)
            ∧ ∀ fault, (SourceM.ask network query state).1 = .error fault →
              Json.decode Json.readAny response.body
                = .ok (.object [("error", .string fault.message)]))
      ∧ (route = .index → ∀ form,
        SearchForm.ofQuery (Text.Utf8.encode request.target.query) = .ok form →
          (response.status = 200
            ↔ ∃ provinces, (SourceM.ask network .provinces state).1 = .ok provinces)) := by
  obtain ⟨response, state', hrun⟩ :=
    Inquiry.exists_run network t (Server.respond assets request) state
  refine ⟨response, congrArg Prod.fst (step_visit hrun), fun hasks => ?once, ?page⟩
  case once =>
    show _ ∧ _ ∧ ∀ query, _ → (Server.respond assets request).calls network (some t) state = _ ∧ _
    rw [Server.respond_of_get hget hroute] at hrun ⊢
    by_cases hposes : ∃ query, request.Poses route query
    · obtain ⟨query, hquery⟩ := hposes
      obtain ⟨-, htells⟩ := Server.tells_of_poses hquery hrun
      have hposed : ¬ ∀ query, ¬ request.Poses route query := not_forall_not.mpr ⟨query, hquery⟩
      refine ⟨htells.status_mem, iff_of_false htells.status_ne hposed, ?_⟩
      intro query' hquery'
      obtain ⟨hcalls, htells'⟩ := Server.tells_of_poses hquery' hrun
      exact ⟨hcalls, htells'.status_eq_ok_iff, htells'.fault⟩
    · have hnone : ∀ query, ¬ request.Poses route query := not_exists.mp hposes
      obtain ⟨refusal, hrefusal, hstatus⟩ := Server.refused_of_not_poses hasks hnone
      rw [hrefusal] at hrun
      obtain rfl := Option.some.inj (Prod.mk.inj hrun).1
      rw [hstatus]
      exact ⟨state.source.badRequest_mem_statuses, iff_of_true rfl hnone,
        fun query hquery => absurd hquery (hnone query)⟩
  case page =>
    rintro rfl form hform
    rw [Server.respond_of_get hget hroute, Server.handle, Server.withForm_of_ok hform,
      Server.index_eq_bind] at hrun
    exact Server.status_of_run_pageFor hrun

/-- The files have no stations of a province, and that is the fault of the server. -/
theorem missing_file_is_blamed_on_server :
    let state : SourceState Unit := ⟨.fixtures ⟨[], .empty, .empty, .empty⟩, 0, (), []⟩
    let request := Http.Request.get "/stations" "province=28".toList []
    let message := "mock data error: no mock stations for province 28"
    ∃ response,
      (step .unreachable (.visit (some (Instant.ofMinutes 720)) .none request) state).1
          = .response response
        ∧ response.status = 500
        ∧ Json.decode Json.readAny response.body = .ok (.object [("error", .string message)]) := by
  intro state request message
  have hroute : Http.Route.ofPath? request.target.path = some .stations := by decide
  have hposes := Http.Request.poses_stations_of_province []
  have hfault : (SourceM.ask .unreachable (.stations (.province ⟨"28", by decide⟩)) state).1
      = .error (.fixtures "no mock stations for province 28") := rfl
  obtain ⟨response, hstep, honce, -⟩ :=
    failures_are_attributed .unreachable state (Instant.ofMinutes 720) .none request rfl .stations
      hroute
  obtain ⟨hmem, hbad, hposed⟩ := honce rfl
  obtain ⟨-, hok, htold⟩ := hposed _ hposes
  refine ⟨response, hstep, ?_, htold _ hfault⟩
  have hne : response.status ≠ 200 := by
    rw [Ne, hok, hfault]
    simp
  have hne' : response.status ≠ 400 := fun h => hbad.mp h _ hposes
  simpa [state, Source.statuses, hne, hne'] using hmem

end Session

end StationFinder
