import StationFinder.Proofs.Session.Reload
import StationFinder.Proofs.Session.Requests

/-!
# Proofs/Session/Redirects — where requests are sent on

A request that a source hands over goes to the address that was set.  Whoever is asked there may
point elsewhere, and then the library that speaks HTTP asks there on its own account
(`Network.following`).  So more addresses are asked than those of the requests.  They fall into
trails, one for each request that was handed over (`Session.asked_along_trails`): a trail begins
with the address of the request, and every later address in it is one to which the address before
points.  Where no address points elsewhere, the addresses of the requests are all that is asked
(`Session.asked_of_not_pointsTo`).
-/

namespace StationFinder

variable {σ α : Type}

/-! ## Addresses that point to others -/

/-- What is found at an address: a reply, or another address to ask at. -/
inductive Hop where
  | reply (reply : Reply)
  | elsewhere (url : String)

/-- What is found at each address, with a memory of type `σ`. -/
abbrev Web (σ : Type) := String → σ → Hop × σ

namespace Web

/-- Asks at an address and then, so many times at most, wherever that points.  The addresses at
which one asks are noted. -/
def follow (web : Web σ) : Nat → String → σ × List String → Reply × σ × List String
  | 0, url, (memory, asked) =>
    match web url memory with
    | (.reply reply, memory) => (reply, memory, asked ++ [url])
    | (.elsewhere _, memory) => (.nothing (.goneAstray url), memory, asked ++ [url])
  | hops + 1, url, (memory, asked) =>
    match web url memory with
    | (.reply reply, memory) => (reply, memory, asked ++ [url])
    | (.elsewhere next, memory) => follow web hops next (memory, asked ++ [url])

/-- An address points to another one, at some time. -/
def PointsTo (web : Web σ) (url next : String) : Prop :=
  ∃ memory, (web url memory).1 = .elsewhere next

/-- The addresses at which one asks on account of a request. -/
structure IsTrail (web : Web σ) (hops : Nat) (request : ApiRequest) (trail : List String) :
    Prop where
  head : trail.head? = some request.url
  chain : trail.IsChain web.PointsTo
  length_le : trail.length ≤ hops + 1

variable {web : Web σ} {hops : Nat}

/-- **Who follows leaves a trail.** -/
theorem exists_follow_eq (web : Web σ) (hops : Nat) (url : String) (state : σ × List String) :
    ∃ rest, (web.follow hops url state).2.2 = state.2 ++ url :: rest
      ∧ (url :: rest).IsChain web.PointsTo ∧ rest.length ≤ hops := by
  induction hops generalizing url state with
  | zero =>
    refine ⟨[], ?_, List.IsChain.singleton url, Nat.le_refl 0⟩
    rcases h : web url state.1 with ⟨_ | next, memory⟩ <;> simp only [follow, h]
  | succ hops ih =>
    rcases h : web url state.1 with ⟨reply | next, memory⟩
    · refine ⟨[], ?_, List.IsChain.singleton url, Nat.zero_le _⟩
      simp only [follow, h]
    · obtain ⟨rest, hasked, hchain, hlength⟩ := ih next (memory, state.2 ++ [url])
      have hpoints : web.PointsTo url next := ⟨state.1, by rw [h]⟩
      refine ⟨next :: rest, ?_, List.isChain_cons_cons.mpr ⟨hpoints, hchain⟩,
        Nat.succ_le_succ hlength⟩
      simp only [follow, h, hasked, List.append_assoc, List.singleton_append]

/-- Where nobody points elsewhere a trail is over at once. -/
theorem IsTrail.eq_singleton {request : ApiRequest} {trail : List String}
    (h : web.IsTrail hops request trail) (hweb : ∀ url next, ¬ web.PointsTo url next) :
    trail = [request.url] := by
  obtain ⟨rest, rfl⟩ := List.head?_eq_some_iff.mp h.head
  cases rest with
  | nil => rfl
  | cons next rest => exact absurd (List.isChain_cons_cons.mp h.chain).1 (hweb _ _)

theorem flatten_trails {requests : List ApiRequest} {trails : List (List String)}
    (h : List.Forall₂ (web.IsTrail hops) requests trails)
    (hweb : ∀ url next, ¬ web.PointsTo url next) :
    trails.flatten = requests.map ApiRequest.url := by
  induction h with
  | nil => rfl
  | cons htrail _ ih =>
    rw [List.flatten_cons, htrail.eq_singleton hweb, ih]
    rfl

end Web

namespace Network

/-- A network that asks wherever it is pointed to, so many times at most. -/
def following (web : Web σ) (hops : Nat) : Network (σ × List String) where
  send request := web.follow hops request.url

/-- Requests that are handed over leave their trails, in their order. -/
theorem handOver_following (web : Web σ) (hops : Nat) (requests : List ApiRequest)
    (memory : σ × List String) :
    ∃ trails, ((following web hops).handOver requests memory).2 = memory.2 ++ trails.flatten
      ∧ List.Forall₂ (web.IsTrail hops) requests trails := by
  induction requests generalizing memory with
  | nil => exact ⟨[], (List.append_nil _).symm, .nil⟩
  | cons request requests ih =>
    obtain ⟨rest, hasked, hchain, hlength⟩ := web.exists_follow_eq hops request.url memory
    obtain ⟨trails, hlater, htrails⟩ := ih (web.follow hops request.url memory).2
    refine ⟨(request.url :: rest) :: trails, ?_,
      .cons ⟨rfl, hchain, Nat.succ_le_succ hlength⟩ htrails⟩
    rw [List.flatten_cons, ← List.append_assoc, ← hasked]
    exact hlater

theorem handOver_append (network : Network σ) (requests requests' : List ApiRequest) (memory : σ) :
    network.handOver (requests ++ requests') memory
      = network.handOver requests' (network.handOver requests memory) :=
  List.foldl_append

end Network

/-! ## What becomes of the memory of a network -/

variable {network : Network σ} {before mid after : SourceState σ} {sent sent' : List ApiRequest}

/-- From one state to another some requests are handed over, and nothing else happens to the memory
of the network. -/
structure HandsOver (network : Network σ) (sent : List ApiRequest)
    (before after : SourceState σ) : Prop where
  sent_eq : after.sent = before.sent ++ sent
  network_eq : after.network = network.handOver sent before.network

namespace HandsOver

theorem refl (network : Network σ) (state : SourceState σ) : HandsOver network [] state state :=
  ⟨(List.append_nil _).symm, rfl⟩

theorem trans (h : HandsOver network sent before mid) (h' : HandsOver network sent' mid after) :
    HandsOver network (sent ++ sent') before after where
  sent_eq := by rw [h'.sent_eq, h.sent_eq, List.append_assoc]
  network_eq := by rw [h'.network_eq, h.network_eq, Network.handOver_append]

theorem exists_ask (network : Network σ) (query : Query) (state : SourceState σ) :
    ∃ sent, HandsOver network sent state (SourceM.ask network query state).2 := by
  obtain hask | ⟨_, _, -, -, hask⟩ := SourceM.ask_frame network query state
  · exact ⟨[], hask.symm ▸ refl network state⟩
  · rw [hask]
    exact ⟨_, rfl, rfl⟩

theorem exists_inquiry (network : Network σ) (clock : Option Instant) (inquiry : Inquiry α)
    (state : SourceState σ) :
    ∃ sent, HandsOver network sent state (inquiry.run network clock state).2 := by
  induction inquiry generalizing state with
  | done a => exact ⟨[], refl network state⟩
  | asks query next ih =>
    obtain ⟨sent, hask⟩ := exists_ask network query state
    obtain ⟨sent', hrest⟩ := ih _ (SourceM.ask network query state).2
    exact ⟨sent ++ sent', hask.trans hrest⟩
  | looks next ih =>
    cases clock with
    | some t => exact ih t state
    | none => exact ⟨[], refl network state⟩

/-- A step hands over some requests, unless it changes the network. -/
theorem exists_step (network : Network σ) {step : Step σ} (hstep : ∀ change, step ≠ .rewire change)
    (state : SourceState σ) :
    ∃ sent, HandsOver network sent state (Session.step network step state).2 := by
  obtain ⟨source, clock, memory, said⟩ := state
  cases step with
  | provinces => exact exists_ask network .provinces _
  | municipalities province => exact exists_ask network (.municipalities province) _
  | stations scope => exact exists_ask network (.stations scope) _
  | visit clock assets request =>
    exact exists_inquiry network clock (Server.respond assets request) _
  | reload directory =>
    refine ⟨[], ?_⟩
    show HandsOver network [] _ (SourceM.reload directory _).2
    rw [SourceM.reload]
    split <;> exact ⟨(List.append_nil _).symm, rfl⟩
  | advance nanoseconds => exact ⟨[], (List.append_nil _).symm, rfl⟩
  | evict province => cases source <;> exact ⟨[], (List.append_nil _).symm, rfl⟩
  | rewire change => exact absurd rfl (hstep change)

theorem exists_run (network : Network σ) {steps : List (Step σ)}
    (hsteps : ∀ step ∈ steps, ∀ change, step ≠ .rewire change) (state : SourceState σ) :
    ∃ sent, HandsOver network sent state (Session.run network steps state).2 := by
  induction steps generalizing state with
  | nil => exact ⟨[], refl network state⟩
  | cons step steps ih =>
    obtain ⟨hstep, hrest⟩ := List.forall_mem_cons.mp hsteps
    obtain ⟨sent, hfirst⟩ := exists_step network hstep state
    obtain ⟨sent', hlater⟩ := ih hrest (Session.step network step state).2
    rw [Session.run_cons]
    exact ⟨sent ++ sent', hfirst.trans hlater⟩

end HandsOver

/-! ## Sessions over a network that follows -/

variable {config : ClientConfig} {url : String}

/-- A session sends some of the requests by which its questions are asked. -/
theorem Sends.run_steps {state : SourceState σ} (h : state.source.config? = some config)
    (network : Network σ) (steps : List (Step σ)) :
    Sends config (Session.calls network steps state) state
      (Session.run network steps state).2 := by
  induction steps generalizing state with
  | nil => exact nothing h rfl
  | cons step steps ih =>
    have hstep := Sends.step h network step
    rw [Session.run_cons]
    exact hstep.trans (ih hstep.config_eq)

namespace Session

/-- **What is asked in a session falls into trails.**  Let a source ask the price service at an
address that was set, over a network that follows wherever it is pointed to.  Then the addresses at
which someone is asked are trails, one behind the other, and each of them begins with the address of
a request that keeps to its path. -/
theorem asked_along_trails (web : Web σ) (hops : Nat) {state : SourceState (σ × List String)}
    (h : state.source.config? = some (config.withBaseUrl url))
    (steps : List (Step (σ × List String)))
    (hsteps : ∀ step ∈ steps, ∀ change, step ≠ .rewire change) :
    ∃ sent trails, (run (.following web hops) steps state).2.sent = state.sent ++ sent
      ∧ (∀ request ∈ sent, request.IsConfined url)
      ∧ (run (.following web hops) steps state).2.network.2 = state.network.2 ++ trails.flatten
      ∧ List.Forall₂ (web.IsTrail hops) sent trails := by
  obtain ⟨sent, hsent, hnetwork⟩ := HandsOver.exists_run (.following web hops) hsteps state
  obtain ⟨-, sent', hsent', hsub⟩ := Sends.run_steps h (.following web hops) steps
  obtain rfl : sent = sent' := List.append_cancel_left (hsent.symm.trans hsent')
  obtain ⟨trails, hasked, htrails⟩ := Network.handOver_following web hops sent state.network
  refine ⟨sent, trails, hsent, fun request hrequest => ?_, by rw [hnetwork, hasked], htrails⟩
  obtain ⟨call, -, hmem⟩ := List.mem_flatMap.mp (hsub.mem hrequest)
  rw [Query.eq_of_mem_requests hmem]
  exact ApiRequest.isConfined_ofQuery config url call.query

/-- **Where no address points elsewhere, only the addresses of the requests are asked.** -/
theorem asked_of_not_pointsTo {web : Web σ} (hweb : ∀ url next, ¬ web.PointsTo url next)
    (hops : Nat) {state : SourceState (σ × List String)}
    (h : state.source.config? = some (config.withBaseUrl url))
    (steps : List (Step (σ × List String)))
    (hsteps : ∀ step ∈ steps, ∀ change, step ≠ .rewire change) :
    ∃ sent, (run (.following web hops) steps state).2.sent = state.sent ++ sent
      ∧ (∀ request ∈ sent, request.IsConfined url)
      ∧ (run (.following web hops) steps state).2.network.2
        = state.network.2 ++ sent.map ApiRequest.url := by
  obtain ⟨sent, trails, hsent, hconfined, hasked, htrails⟩ :=
    asked_along_trails web hops h steps hsteps
  exact ⟨sent, hsent, hconfined, by rw [hasked, Web.flatten_trails htrails hweb]⟩

end Session

end StationFinder
