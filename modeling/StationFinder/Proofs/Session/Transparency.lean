import StationFinder.Proofs.Source.Ask
import StationFinder.Session
import Mathlib.Data.List.Forall2

/-!
# Proofs/Session/Transparency — a cache that nobody notices

Where every path has its reply once and for all, a session behind a cache has the answers of a
session without one, and sends at each step some of the requests that the other sends, in their
order (`watch_alike`).

The invariant is `Cache.IsTruthful`: what is in the cache, fresh or not, is what the service would
answer now.  `IsTransparent` says of a piece of a session that it keeps the invariant and comes to
the same on both sides; it holds of a question, and so of everything that is put together from
questions.
-/

namespace StationFinder

variable {reply : String → Reply} {config : ClientConfig} {query : Query} {cache : Cache}
  {α β : Type}

/-! ## A service that does not change -/

namespace Query

/-- What a question comes to where every path has its reply. -/
def settled (reply : String → Reply) (config : ClientConfig) (query : Query) : query.Outcome :=
  match (ApiRequest.ofQuery config query).destination with
  | .ok _ => query.read (reply (ApiRequest.ofQuery config query).url)
  | .error fault => .error (.exchange fault)

end Query

theorem SourceM.fetch_fixed (state : SourceState Unit) :
    SourceM.fetch (.fixed reply) config query state
      = (query.settled reply config,
        { state with sent := state.sent ++ query.requests config }) := by
  refine Prod.ext ?_ (SourceM.fetch_frame (.fixed reply) config query state)
  rcases h : (ApiRequest.ofQuery config query).destination with fault | address
  · simp only [SourceM.fetch_of_error h, Query.settled, h]
  · simp only [SourceM.fetch_of_ok h, Query.settled, h, Network.fixed]

/-! ## Truthful caches -/

/-- What is in the cache is what the service would answer. -/
def Cache.IsTruthful (reply : String → Reply) (config : ClientConfig) (cache : Cache) : Prop :=
  ∀ query stamped, cache.stamped? query = some stamped →
    query.settled reply config = .ok stamped.value

namespace Cache.IsTruthful

theorem of_new? {cacheConfig : CacheConfig} (h : Cache.new? cacheConfig = some cache) :
    cache.IsTruthful reply config := by
  intro query stamped hstamped
  rw [stamped?_of_new? h] at hstamped
  cases hstamped

theorem evict {province : ProvinceId} (h : cache.IsTruthful reply config) :
    (cache.evict province).IsTruthful reply config :=
  fun query stamped hstamped => h query stamped (stamped?_of_evict hstamped)

/-- What the service answers can be put. -/
theorem refill {now : Nat} (h : cache.IsTruthful reply config) :
    (cache.refill now query (query.settled reply config)).IsTruthful reply config := by
  intro query' stamped hstamped
  by_cases hne : query' = query
  · subst hne
    rcases of_stamped?_refill hstamped with hsaid | hthere
    · exact hsaid
    · exact h query' stamped hthere
  · rw [stamped?_refill_of_ne hne] at hstamped
    exact h query' stamped hstamped

theorem settled_of_kept? {now : Nat} {found : query.Found} (h : cache.IsTruthful reply config)
    (hkept : cache.kept? now query = some found) : query.settled reply config = .ok found := by
  obtain ⟨since, hstamped⟩ := stamped?_of_kept? hkept
  exact h query _ hstamped

end Cache.IsTruthful

/-! ## The two sides -/

/-- Two sources of the same service at the same time, the first of them behind a truthful cache. -/
structure Alike (reply : String → Reply) (config : ClientConfig)
    (cached client : SourceState Unit) : Prop where
  source_cached : ∃ cache, cached.source = .cached config cache ∧ cache.IsTruthful reply config
  source_client : client.source = .client config
  clock_eq : cached.clock = client.clock

/-- A piece of a session comes to the same on both sides; behind the cache it sends some of the
requests that it sends without one. -/
def IsTransparent (reply : String → Reply) (config : ClientConfig)
    (piece : SourceM Unit α) : Prop :=
  ∀ cached client, Alike reply config cached client →
    (piece cached).1 = (piece client).1 ∧ Alike reply config (piece cached).2 (piece client).2
      ∧ ∃ sent sent', (piece cached).2.sent = cached.sent ++ sent
        ∧ (piece client).2.sent = client.sent ++ sent' ∧ sent.Sublist sent'

namespace IsTransparent

theorem pure (a : α) : IsTransparent reply config (pure a) :=
  fun _ _ h => ⟨rfl, h, [], [], (List.append_nil _).symm, (List.append_nil _).symm, .slnil⟩

theorem bind {first : SourceM Unit α} {rest : α → SourceM Unit β}
    (hfirst : IsTransparent reply config first) (hrest : ∀ a, IsTransparent reply config (rest a)) :
    IsTransparent reply config (first >>= rest) := by
  intro cached client h
  obtain ⟨hvalue, halike, sent, sent', hsent, hsent', hsub⟩ := hfirst cached client h
  obtain ⟨hvalue₂, halike₂, sent₂, sent₂', hsent₂, hsent₂', hsub₂⟩ :=
    hrest (first client).1 (first cached).2 (first client).2 halike
  have hcached : (first >>= rest) cached = rest (first client).1 (first cached).2 := by
    rw [← hvalue]
    rfl
  have hclient : (first >>= rest) client = rest (first client).1 (first client).2 := rfl
  rw [hcached, hclient]
  refine ⟨hvalue₂, halike₂, sent ++ sent₂, sent' ++ sent₂', ?_, ?_, hsub.append hsub₂⟩
  · rw [hsent₂, hsent, List.append_assoc]
  · rw [hsent₂', hsent', List.append_assoc]

/-- **A question comes to the same behind the cache**, whether it is passed on or not. -/
theorem ask (query : Query) : IsTransparent reply config (SourceM.ask (.fixed reply) query) := by
  rintro cached client ⟨⟨cache, hcached, htruth⟩, hclient, hclock⟩
  rw [SourceM.ask_client hclient, SourceM.fetch_fixed]
  rcases hkept : cache.kept? cached.clock query with _ | found
  · rw [SourceM.ask_of_not_kept? _ hcached hkept, SourceM.fetch_fixed]
    exact ⟨rfl, ⟨⟨_, rfl, htruth.refill⟩, hclient, hclock⟩, _, _, rfl, rfl, .refl _⟩
  · rw [SourceM.ask_of_kept? _ hcached hkept, htruth.settled_of_kept? hkept]
    exact ⟨rfl, ⟨⟨cache, hcached, htruth⟩, hclient, hclock⟩, [], _, (List.append_nil _).symm, rfl,
      List.nil_sublist _⟩

theorem run (clock : Option Instant) (inquiry : Inquiry α) :
    IsTransparent reply config (inquiry.run (.fixed reply) clock) := by
  induction inquiry with
  | done a => exact pure (some a)
  | asks query next ih => exact (ask query).bind ih
  | looks next ih =>
    cases clock with
    | some t => exact ih t
    | none => exact pure none

/-- What changes the two sides alike and sends nothing. -/
theorem modify {change : SourceState Unit → SourceState Unit}
    (hsent : ∀ state, (change state).sent = state.sent)
    (h : ∀ cached client, Alike reply config cached client →
      Alike reply config (change cached) (change client)) :
    IsTransparent reply config (modify change) := fun cached client halike =>
  ⟨rfl, h cached client halike, [], [], by rw [List.append_nil]; exact hsent cached,
    by rw [List.append_nil]; exact hsent client, .slnil⟩

theorem advance (nanoseconds : Nat) : IsTransparent reply config (SourceM.advance nanoseconds) :=
  modify (fun _ => rfl) fun _ _ h =>
    ⟨h.source_cached, h.source_client, congrArg (· + nanoseconds) h.clock_eq⟩

theorem evict (province : ProvinceId) : IsTransparent reply config (SourceM.evict province) := by
  refine modify (fun state => ?_) fun cached client h => ?_
  · cases state.source <;> rfl
  · obtain ⟨⟨cache, hcached, htruth⟩, hclient, hclock⟩ := h
    simp only [hcached, hclient]
    exact ⟨⟨_, rfl, htruth.evict⟩, hclient, hclock⟩

/-- There are no files to read again on either side. -/
theorem reload (directory : Directory) :
    IsTransparent reply config (SourceM.reload directory) := by
  intro cached client h
  obtain ⟨cache, hcached, -⟩ := h.source_cached
  rw [SourceM.reload_eq directory (by simp [hcached]),
    SourceM.reload_eq directory (by simp [h.source_client])]
  exact ⟨rfl, h, [], [], (List.append_nil _).symm, (List.append_nil _).symm, .slnil⟩

/-- **Every step comes to the same behind the cache.** -/
theorem step (step : Step Unit) :
    IsTransparent reply config (Session.step (.fixed reply) step) := by
  cases step with
  | provinces => exact (ask .provinces).bind fun _ => pure _
  | municipalities province => exact (ask (.municipalities province)).bind fun _ => pure _
  | stations scope => exact (ask (.stations scope)).bind fun _ => pure _
  | visit clock assets request =>
    exact (run clock (Server.respond assets request)).bind fun _ => pure _
  | reload directory => exact (reload directory).bind fun _ => pure _
  | advance nanoseconds => exact (advance nanoseconds).bind fun _ => pure _
  | evict province => exact (evict province).bind fun _ => pure _
  | rewire change =>
    -- the replies are fixed, and there is nothing else that could change
    exact (modify (fun _ => rfl) fun _ _ h => ⟨h.source_cached, h.source_client, h.clock_eq⟩).bind
      fun _ => pure _

end IsTransparent

/-! ## Sessions that are watched -/

namespace Session

variable {σ : Type}

/-- Takes a step and tells its answer, with the requests that are handed to the network meanwhile.
-/
def watchStep (network : Network σ) (step : Step σ) : SourceM σ (Answer × List ApiRequest) := do
  let before := (← get).sent
  let answer ← Session.step network step
  let after := (← get).sent
  return (answer, after.drop before.length)

/-- Takes some steps and tells of each. -/
def watch (network : Network σ) (steps : List (Step σ)) :
    SourceM σ (List (Answer × List ApiRequest)) :=
  steps.mapM (watchStep network)

/-- The answer is the same, and the requests are some of the others, in their order. -/
def IsThriftier (r r' : Answer × List ApiRequest) : Prop := r.1 = r'.1 ∧ r.2.Sublist r'.2

theorem watchStep_alike {cached client : SourceState Unit} (step : Step Unit)
    (h : Alike reply config cached client) :
    IsThriftier (watchStep (.fixed reply) step cached).1 (watchStep (.fixed reply) step client).1
      ∧ Alike reply config (watchStep (.fixed reply) step cached).2
        (watchStep (.fixed reply) step client).2 := by
  obtain ⟨hvalue, halike, sent, sent', hsent, hsent', hsub⟩ :=
    IsTransparent.step step cached client h
  refine ⟨⟨hvalue, ?_⟩, halike⟩
  show ((Session.step _ step cached).2.sent.drop cached.sent.length).Sublist
    ((Session.step _ step client).2.sent.drop client.sent.length)
  rw [hsent, hsent', List.drop_left, List.drop_left]
  exact hsub

/-- Sessions on the two sides go on alike. -/
theorem watch_alike (steps : List (Step Unit)) {cached client : SourceState Unit}
    (h : Alike reply config cached client) :
    List.Forall₂ IsThriftier (watch (.fixed reply) steps cached).1
      (watch (.fixed reply) steps client).1 := by
  induction steps generalizing cached client with
  | nil => exact .nil
  | cons step steps ih =>
    obtain ⟨hthrifty, halike⟩ := watchStep_alike step h
    simp only [watch, List.mapM_cons]
    exact .cons hthrifty (ih halike)

/-- **A cache is not noticed where the service does not change.**  Whatever the service has for each
path, a source behind a cache and a source without one have the same answers at every step, and the
first sends at each step some of the requests that the second sends, in their order.  It does not
matter what the cache gives up in between. -/
theorem watch_cached_eq_watch_client (reply : String → Reply) (config : ClientConfig)
    (cacheConfig : CacheConfig) (source : Source) (clock : Nat) (sent : List ApiRequest)
    (steps : List (Step Unit)) (hsource : Source.ofCachedClient config cacheConfig = .ok source) :
    ∃ client, Source.ofClient config = .ok client
      ∧ List.Forall₂ IsThriftier (watch (.fixed reply) steps ⟨source, clock, (), sent⟩).1
        (watch (.fixed reply) steps ⟨client, clock, (), sent⟩).1 := by
  obtain ⟨hclient, cache, hcache, rfl⟩ := Source.exists_cache_of_ofCachedClient hsource
  have hstart : Alike reply config ⟨.cached config cache, clock, (), sent⟩
      ⟨.client config, clock, (), sent⟩ :=
    ⟨⟨cache, rfl, .of_new? hcache⟩, rfl, rfl⟩
  exact ⟨.client config, hclient, watch_alike steps hstart⟩

/-- Two questions for the provinces, a minute apart, of a service that has none. -/
theorem watch_provinces_twice : ∃ client, Source.ofClient ClientConfig.initial = .ok client
    ∧ List.Forall₂ IsThriftier
      (watch (.fixed fun _ => .answer 200 (some "[]"))
        [.provinces, .advance (nanoseconds 60), .provinces]
        ⟨.cached .initial ⟨nanoseconds 3600, none, .empty⟩, 0, (), []⟩).1
      (watch (.fixed fun _ => .answer 200 (some "[]"))
        [.provinces, .advance (nanoseconds 60), .provinces] ⟨client, 0, (), []⟩).1 :=
  watch_cached_eq_watch_client _ .initial .initial _ 0 [] _ rfl

end Session

end StationFinder
