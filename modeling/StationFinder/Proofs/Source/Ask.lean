import StationFinder.Source

/-!
# Proofs/Source/Ask — what a question to a source comes to

The three questions are handled alike.  `Cache.kept?` is what a cache says to a question and
`Cache.refill` what an outcome leaves in it; stations are never in it.  In these words a source
behind a cache says what is kept and changes nothing (`ask_of_kept?`), or passes the question on and
refills the cache (`ask_of_not_kept?`).  What becomes of the rest of the state is the same for all
sources (`ask_frame`).
-/

namespace StationFinder

/-- Whether a question asks for a listing, which may be kept. -/
def Query.isListing : Query → Bool
  | provinces | municipalities _ => true
  | stations _ => false

namespace Cache

variable {cache : Cache} {query query' : Query} {now : Nat}

/-! ## What is in a cache -/

/-- What is there under a question, fresh or not. -/
def stamped? (cache : Cache) : (query : Query) → Option (Stamped query.Found)
  | .provinces => cache.provinces
  | .municipalities province => cache.municipalities.get? province.text
  | .stations _ => none

/-- What a cache says to a question. -/
def kept? (cache : Cache) (now : Nat) (query : Query) : Option query.Found :=
  (cache.stamped? query).bind (·.fresh? cache.ttl now)

/-- Puts what was found out by a question, if it was for a listing. -/
def put (cache : Cache) (now : Nat) : (query : Query) → query.Found → Cache
  | .provinces, list => cache.putProvinces now list
  | .municipalities province, list => cache.putMunicipalities now province list
  | .stations _, _ => cache

/-- What a cache is like after a question was passed on: only a good outcome is put. -/
def refill (cache : Cache) (now : Nat) (query : Query) : query.Outcome → Cache
  | .ok found => cache.put now query found
  | .error _ => cache

theorem stamped?_of_new? {config : CacheConfig} (h : new? config = some cache) :
    cache.stamped? query = none := by
  rw [new?] at h
  split at h <;> cases h
  cases query <;> rfl

theorem ttl_of_new? {config : CacheConfig} (h : new? config = some cache) :
    cache.ttl = config.ttl := by
  rw [new?] at h
  split at h <;> cases h
  rfl

@[simp] theorem ttl_put (found : query.Found) : (cache.put now query found).ttl = cache.ttl := by
  cases query <;> rfl

@[simp] theorem ttl_refill (outcome : query.Outcome) :
    (cache.refill now query outcome).ttl = cache.ttl := by
  cases outcome with
  | ok found => exact ttl_put found
  | error _ => rfl

/-- Only listings are put. -/
theorem refill_eq_self (hq : query.isListing = false) (outcome : query.Outcome) :
    cache.refill now query outcome = cache := by
  cases query with
  | stations _ => cases outcome <;> rfl
  | provinces | municipalities _ => cases hq

theorem stamped?_put_self (hq : query.isListing = true) (found : query.Found) :
    (cache.put now query found).stamped? query = some ⟨found, now⟩ := by
  cases query with
  | provinces => rfl
  | municipalities province => exact Table.get?_insert.trans (if_pos rfl)
  | stations _ => cases hq

/-- **Nothing is put under another question**, not even under one that looks like it. -/
theorem stamped?_put_of_ne (h : query' ≠ query) (found : query.Found) :
    (cache.put now query found).stamped? query' = cache.stamped? query' := by
  match query, query' with
  | .provinces, .provinces => exact absurd rfl h
  | .provinces, .municipalities _ | .municipalities _, .provinces => rfl
  | .municipalities province, .municipalities province' =>
    have hne : province'.text ≠ province.text := by
      intro htext
      exact h (congrArg Query.municipalities (AreaId.eq_of_text_eq htext))
    exact Table.get?_insert.trans (if_neg hne)
  | _, .stations _ | .stations _, _ => rfl

theorem stamped?_refill_of_ne (h : query' ≠ query) (outcome : query.Outcome) :
    (cache.refill now query outcome).stamped? query' = cache.stamped? query' := by
  cases outcome with
  | ok found => exact stamped?_put_of_ne h found
  | error _ => rfl

/-- What is there under a question that was passed on is what was said, or was there before. -/
theorem of_stamped?_refill {outcome : query.Outcome} {stamped : Stamped query.Found}
    (h : (cache.refill now query outcome).stamped? query = some stamped) :
    outcome = .ok stamped.value ∨ cache.stamped? query = some stamped := by
  rcases outcome with fault | found
  · exact .inr h
  · rcases hq : query.isListing with _ | _
    · rw [refill_eq_self hq] at h
      exact .inr h
    · rw [refill, stamped?_put_self hq] at h
      cases h
      exact .inl rfl

/-- What is there after some municipalities were given up was there before. -/
theorem stamped?_of_evict {province : ProvinceId} {stamped : Stamped query.Found}
    (h : (cache.evict province).stamped? query = some stamped) :
    cache.stamped? query = some stamped := by
  cases query with
  | provinces => exact h
  | municipalities province' =>
    simp only [evict, stamped?, Table.get?_erase] at h
    split at h
    · cases h
    · exact h
  | stations _ => cases h

/-- Only listings are kept. -/
theorem kept?_eq_none (hq : query.isListing = false) : cache.kept? now query = none := by
  cases query with
  | stations _ => rfl
  | provinces | municipalities _ => cases hq

theorem stamped?_of_kept? {found : query.Found} (h : cache.kept? now query = some found) :
    ∃ since, cache.stamped? query = some ⟨found, since⟩ := by
  obtain ⟨⟨value, since⟩, hstamped, hfresh⟩ := Option.bind_eq_some_iff.mp h
  rw [Stamped.fresh?] at hfresh
  split at hfresh <;> cases hfresh
  exact ⟨since, hstamped⟩

end Cache

/-- What files answer to a question. -/
def Fixtures.answer (fixtures : Fixtures) : (query : Query) → query.Outcome
  | .provinces => .ok fixtures.provinces
  | .municipalities province => fixtures.listMunicipalities province
  | .stations scope => fixtures.listStations scope

theorem Source.eq_of_ofClient {config : ClientConfig} {source : Source}
    (h : ofClient config = .ok source) : source = .client config := by
  rw [ofClient] at h
  split at h <;> cases h
  rfl

/-- A source behind a cache begins with an empty one, and there is one without a cache as well. -/
theorem Source.exists_cache_of_ofCachedClient {config : ClientConfig} {cacheConfig : CacheConfig}
    {source : Source} (h : ofCachedClient config cacheConfig = .ok source) :
    ofClient config = .ok (.client config)
      ∧ ∃ cache, Cache.new? cacheConfig = some cache ∧ source = .cached config cache := by
  rw [ofCachedClient] at h
  split at h
  · next hle =>
    split at h <;> cases h
    next cache hcache =>
    exact ⟨if_pos hle, cache, hcache, rfl⟩
  · cases h

/-! ## Requests -/

/-- The settings by which a source asks the price service, if it does. -/
def Source.config? : Source → Option ClientConfig
  | fixtures _ => none
  | client config | cached config _ => some config

/-- The requests by which a question is asked: one, if it can be sent. -/
def Query.requests (config : ClientConfig) (query : Query) : List ApiRequest :=
  match (ApiRequest.ofQuery config query).destination with
  | .ok _ => [ApiRequest.ofQuery config query]
  | .error _ => []

/-- The memory of a network to which some requests were handed, one after the other. -/
def Network.handOver {σ : Type} (network : Network σ) (requests : List ApiRequest) (memory : σ) :
    σ :=
  requests.foldl (fun memory request => (network.send request memory).2) memory

namespace SourceM

variable {σ : Type} {network : Network σ} {config : ClientConfig} {query : Query}
  {state : SourceState σ} {cache : Cache}

/-! ## Fetching -/

theorem fetch_of_error {fault : ExchangeFault}
    (h : (ApiRequest.ofQuery config query).destination = .error fault) :
    fetch network config query state = (.error (.exchange fault), state) := by
  simp only [fetch, h]
  rfl

theorem fetch_of_ok {address : WebAddress}
    (h : (ApiRequest.ofQuery config query).destination = .ok address) :
    fetch network config query state
      = (query.read (network.send (ApiRequest.ofQuery config query) state.network).1,
        { state with
          network := (network.send (ApiRequest.ofQuery config query) state.network).2
          sent := state.sent ++ [ApiRequest.ofQuery config query] }) := by
  simp only [fetch, h]
  rfl

/-- **Fetching hands over the request by which the question is asked** and changes nothing else. -/
theorem fetch_frame (network : Network σ) (config : ClientConfig) (query : Query)
    (state : SourceState σ) : (fetch network config query state).2
      = { state with
          network := network.handOver (query.requests config) state.network
          sent := state.sent ++ query.requests config } := by
  rcases h : (ApiRequest.ofQuery config query).destination with fault | address
  · simp only [fetch_of_error h, Query.requests, h, List.append_nil]
    rfl
  · simp only [fetch_of_ok h, Query.requests, h]
    rfl

/-- What is fetched does not depend on the source that passes the question on. -/
theorem fetch_of_source (network : Network σ) (config : ClientConfig) (query : Query)
    (state : SourceState σ) (source : Source) :
    fetch network config query { state with source := source }
      = ((fetch network config query state).1,
        { (fetch network config query state).2 with source := source }) := by
  rcases hdest : (ApiRequest.ofQuery config query).destination with fault | address
  · rw [fetch_of_error hdest, fetch_of_error hdest]
  · rw [fetch_of_ok hdest, fetch_of_ok hdest]

/-! ## Asking -/

/-- The price service itself passes every question on. -/
theorem ask_client (h : state.source = .client config) :
    ask network query state = fetch network config query state := by
  obtain ⟨source, clock, memory, sent⟩ := state
  cases h
  cases query <;> rfl

theorem listProvinces_cached (network : Network σ) (clock : Nat) (memory : σ)
    (sent : List ApiRequest) :
    listProvinces network ⟨.cached config cache, clock, memory, sent⟩
      = (match cache.provinces? clock with
        | some provinces => pure (.ok provinces)
        | none => fetch network config .provinces >>= keep config cache.putProvinces :
          SourceM σ (Except SourceFault (List Province)))
          ⟨.cached config cache, clock, memory, sent⟩ :=
  rfl

theorem listMunicipalities_cached (network : Network σ) (clock : Nat) (memory : σ)
    (sent : List ApiRequest) (province : ProvinceId) :
    listMunicipalities network province ⟨.cached config cache, clock, memory, sent⟩
      = (match cache.municipalities? clock province with
        | some municipalities => pure (.ok municipalities)
        | none => fetch network config (.municipalities province)
            >>= keep config fun now => cache.putMunicipalities now province :
          SourceM σ (Except SourceFault (List Municipality)))
          ⟨.cached config cache, clock, memory, sent⟩ :=
  rfl

/-- What keeping comes to after a question was passed on. -/
theorem fetch_keep (h : state.source = .cached config cache) :
    (fetch network config query >>= keep config fun now => cache.put now query) state
      = ((fetch network config query state).1,
        { (fetch network config query state).2 with
          source := .cached config
            (cache.refill state.clock query (fetch network config query state).1) }) := by
  have hframe := fetch_frame network config query state
  simp only [bind, StateT.bind]
  rcases hf : fetch network config query state with ⟨outcome, source, clock, memory, sent⟩
  rw [hf] at hframe
  obtain ⟨rfl, rfl, -, -⟩ := SourceState.mk.inj hframe
  cases outcome with
  | ok found => rfl
  | error fault => simp only [keep, Cache.refill, h]

/-- **What is kept is said without a question to the service**, and nothing changes. -/
theorem ask_of_kept? (network : Network σ) {found : query.Found}
    (h : state.source = .cached config cache)
    (hkept : cache.kept? state.clock query = some found) :
    ask network query state = (.ok found, state) := by
  obtain ⟨source, clock, memory, sent⟩ := state
  cases h
  cases query with
  | provinces =>
    have hp : cache.provinces? clock = some found := hkept
    exact (listProvinces_cached network clock memory sent).trans (by rw [hp]; rfl)
  | municipalities province =>
    have hm : cache.municipalities? clock province = some found := hkept
    exact (listMunicipalities_cached network clock memory sent province).trans (by rw [hm]; rfl)
  | stations _ => cases hkept

/-- **What is not kept is fetched**, and the outcome refills the cache. -/
theorem ask_of_not_kept? (network : Network σ) (h : state.source = .cached config cache)
    (hkept : cache.kept? state.clock query = none) :
    ask network query state
      = ((fetch network config query state).1,
        { (fetch network config query state).2 with
          source := .cached config
            (cache.refill state.clock query (fetch network config query state).1) }) := by
  rw [← fetch_keep h]
  obtain ⟨source, clock, memory, sent⟩ := state
  cases h
  cases query with
  | provinces =>
    have hp : cache.provinces? clock = none := hkept
    exact (listProvinces_cached network clock memory sent).trans (by rw [hp]; rfl)
  | municipalities province =>
    have hm : cache.municipalities? clock province = none := hkept
    exact (listMunicipalities_cached network clock memory sent province).trans (by rw [hm]; rfl)
  | stations scope =>
    -- nothing is put, so the cache that is put back is the one that was there
    rw [fetch_keep rfl, Cache.refill_eq_self rfl]
    refine Prod.ext rfl ?_
    show (fetch network config (.stations scope) _).2 = _
    rw [fetch_frame]

/-- Asking leaves a cache as it is or refills it with what is said. -/
theorem source_ask (network : Network σ) (query : Query)
    (h : state.source = .cached config cache) :
    (ask network query state).2.source = state.source ∨ (ask network query state).2.source
      = .cached config (cache.refill state.clock query (ask network query state).1) := by
  rcases hkept : cache.kept? state.clock query with _ | found
  · rw [ask_of_not_kept? network h hkept]
    exact .inr rfl
  · rw [ask_of_kept? network h hkept]
    exact .inl rfl

/-- **A directory of files answers from the files**, and nothing changes. -/
theorem ask_fixtures_eq (network : Network σ) (query : Query) {fixtures : Fixtures}
    (h : state.source = .fixtures fixtures) :
    ask network query state = (fixtures.answer query, state) := by
  obtain ⟨source, clock, memory, sent⟩ := state
  cases h
  cases query <;> rfl

theorem ask_fixtures {fixtures : Fixtures} (h : state.source = .fixtures fixtures) :
    (ask network query state).2 = state :=
  congrArg Prod.snd (ask_fixtures_eq network query h)

/-- **Asking changes nothing, or the request for the question is handed over** by a source that
keeps its settings. -/
theorem ask_frame (network : Network σ) (query : Query) (state : SourceState σ) :
    (ask network query state).2 = state
      ∨ ∃ config source, state.source.config? = some config ∧ source.config? = some config
        ∧ (ask network query state).2
          = ⟨source, state.clock, network.handOver (query.requests config) state.network,
            state.sent ++ query.requests config⟩ := by
  rcases h : state.source with fixtures | config | ⟨config, cache⟩
  · exact .inl (ask_fixtures h)
  · rw [ask_client h, fetch_frame]
    exact .inr ⟨config, state.source, rfl, congrArg Source.config? h, rfl⟩
  · rcases hkept : cache.kept? state.clock query with _ | found
    · rw [ask_of_not_kept? network h hkept, fetch_frame]
      exact .inr ⟨config, .cached config _, rfl, rfl, rfl⟩
    · exact .inl (congrArg Prod.snd (ask_of_kept? network h hkept))

/-- No time passes while a source is asked. -/
theorem clock_ask (network : Network σ) (query : Query) (state : SourceState σ) :
    (ask network query state).2.clock = state.clock := by
  obtain h | ⟨_, _, -, -, h⟩ := ask_frame network query state <;> rw [h]

/-- Where there are no files, none are read again. -/
theorem reload_eq (directory : Directory) (h : ∀ fixtures, state.source ≠ .fixtures fixtures) :
    reload directory state = (.ok (), state) := by
  rcases hsource : state.source with fixtures | config | ⟨config, cache⟩
  · exact absurd hsource (h fixtures)
  · simp only [reload, hsource]
  · simp only [reload, hsource]

end SourceM

end StationFinder
