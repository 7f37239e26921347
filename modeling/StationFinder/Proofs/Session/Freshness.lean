import StationFinder.Proofs.Session.Calls
import StationFinder.Proofs.Source.Ask

/-!
# Proofs/Session/Freshness — for how long a listing is kept

A cache is its history: what is in it under a question is the latest good answer of the service to
that question, with the time of that answer (`IsAccounted`).  So a listing is kept exactly when the
service gave it less than the time to live ago, and it is the latest that was given; everything else
is fetched (`IsAnsweredByHistory`).

The clock of the cache ends after some centuries, and from then on nothing is found
(`Call.kept?_of_clockEnd_le`).
-/

namespace StationFinder

variable {σ : Type} {network : Network σ} {config : ClientConfig} {query : Query} {ttl : Nat}
  {call : Call σ} {past earlier : List (Call σ)} {state : SourceState σ} {cache : Cache}

namespace Call

/-- What the cache says to the question of a call. -/
def kept? (call : Call σ) : Option call.query.Found :=
  match call.before.source with
  | .cached _ cache => cache.kept? call.before.clock call.query
  | _ => none

/-- What the service said to a question by way of a call, with the time: nothing if the call was for
another question, or was not passed on, or came to a fault. -/
def brought? (network : Network σ) (config : ClientConfig) (query : Query) (call : Call σ) :
    Option (Stamped query.Found) :=
  if call.query = query ∧ call.kept? = none then
    (SourceM.fetch network config query call.before).1.toOption.map (⟨·, call.before.clock⟩)
  else none

/-- The same call to a source without a cache. -/
def uncached (config : ClientConfig) (call : Call σ) : Call σ :=
  { call with before := { call.before with source := .client config } }

/-- Without a cache everything is fetched. -/
theorem ask_uncached (network : Network σ) (config : ClientConfig) (call : Call σ) :
    SourceM.ask network call.query (call.uncached config).before
      = ((SourceM.fetch network config call.query call.before).1,
        { (SourceM.fetch network config call.query call.before).2 with
          source := .client config }) :=
  (SourceM.ask_client rfl).trans (SourceM.fetch_of_source network config call.query call.before _)

theorem kept?_eq (h : call.before.source = .cached config cache) :
    call.kept? = cache.kept? call.before.clock call.query := by
  rw [kept?, h]

/-- From the end of the clock on nothing is kept. -/
theorem kept?_of_clockEnd_le (h : clockEnd ≤ call.before.clock) : call.kept? = none := by
  rw [kept?]
  split
  · next cache _ =>
    refine Option.bind_eq_none_iff.mpr fun stamped _ => if_neg fun hfresh => ?_
    exact Nat.not_lt.mpr h hfresh.2
  · rfl

theorem brought?_of_ne (h : call.query ≠ query) : call.brought? network config query = none :=
  if_neg fun hq => h hq.1

theorem brought?_of_kept? (h : call.kept?.isSome = true) :
    call.brought? network config query = none := by
  refine if_neg fun hq => ?_
  rw [hq.2] at h
  cases h

theorem brought?_of_not_kept? (h : call.kept? = none) :
    call.brought? network config call.query
      = (SourceM.fetch network config call.query call.before).1.toOption.map
        (⟨·, call.before.clock⟩) :=
  if_pos ⟨rfl, h⟩

theorem since_of_brought? {stamped : Stamped query.Found}
    (h : call.brought? network config query = some stamped) :
    stamped.since = call.before.clock := by
  rw [brought?] at h
  split at h
  · obtain ⟨found, -, rfl⟩ := Option.map_eq_some_iff.mp h
    rfl
  · cases h

end Call

/-! ## The latest good answer -/

/-- The latest that the service said to a question in the past. -/
def latest? (network : Network σ) (config : ClientConfig) (query : Query) (past : List (Call σ)) :
    Option (Stamped query.Found) :=
  past.reverse.findSome? (Call.brought? network config query)

theorem latest?_append_singleton :
    latest? network config query (past ++ [call])
      = (call.brought? network config query).or (latest? network config query past) := by
  rw [latest?, List.reverse_append, List.findSome?_append]
  congr 1
  simp

/-- **The latest is followed by nothing else that the service said to the question.** -/
theorem latest?_eq_some_iff {stamped : Stamped query.Found} :
    latest? network config query past = some stamped ↔
      ∃ before call after, past = before ++ call :: after
        ∧ call.brought? network config query = some stamped
        ∧ ∀ other ∈ after, other.brought? network config query = none := by
  rw [latest?, List.findSome?_eq_some_iff]
  constructor
  · rintro ⟨after, call, before, hpast, hcall, hafter⟩
    refine ⟨before.reverse, call, after.reverse, ?_, hcall, fun other ho => ?_⟩
    · have := congrArg List.reverse hpast
      simpa using this
    · exact hafter other (List.mem_reverse.mp ho)
  · rintro ⟨before, call, after, rfl, hcall, hafter⟩
    refine ⟨after.reverse, call, before.reverse, by simp, hcall, fun other ho => ?_⟩
    exact hafter other (List.mem_reverse.mp ho)

theorem latest?_eq_none_iff : latest? network config query past = none ↔
    ∀ call ∈ past, call.brought? network config query = none := by
  simp only [latest?, List.findSome?_eq_none_iff, List.mem_reverse]

/-! ## The cache and its history -/

theorem isSome_fresh?_iff {α : Type} {stamped : Stamped α} {now : Nat} :
    (stamped.fresh? ttl now).isSome = true ↔ now < stamped.since + ttl ∧ now < clockEnd := by
  rw [Stamped.fresh?]
  split <;> simp_all

/-- What is there under a question in the cache of a source. -/
def Source.stamped? (source : Source) (query : Query) : Option (Stamped query.Found) :=
  match source with
  | .cached _ cache => cache.stamped? query
  | _ => none

/-- A source behind a cache in which each question stands with the latest that the service said to
it; the calls came one after the other. -/
structure IsAccounted (network : Network σ) (config : ClientConfig) (ttl : Nat)
    (past : List (Call σ)) (state : SourceState σ) : Prop where
  source : ∃ cache, state.source = .cached config cache ∧ cache.ttl = ttl
    ∧ ∀ query : Query, query.isListing = true →
      cache.stamped? query = latest? network config query past
  clock_le : ∀ call ∈ past, call.before.clock ≤ state.clock
  ascending : past.Pairwise fun call later => call.before.clock ≤ later.before.clock

namespace IsAccounted

/-- A cache that is empty accounts for no past. -/
theorem nil {cacheConfig : CacheConfig} {source : Source} (clock : Nat) (memory : σ)
    (sent : List ApiRequest) (h : Source.ofCachedClient config cacheConfig = .ok source) :
    IsAccounted network config cacheConfig.ttl [] ⟨source, clock, memory, sent⟩ := by
  obtain ⟨-, cache, hcache, rfl⟩ := Source.exists_cache_of_ofCachedClient h
  refine ⟨⟨cache, rfl, Cache.ttl_of_new? hcache, fun query _ => ?_⟩, ?_, List.Pairwise.nil⟩
  · exact Cache.stamped?_of_new? hcache
  · intro call hcall
    cases hcall

/-- A state with the same source at a later time is accounted for like the one before. -/
theorem of_source_eq {state' : SourceState σ} (h : IsAccounted network config ttl past state)
    (hsource : state'.source = state.source) (hclock : state.clock ≤ state'.clock) :
    IsAccounted network config ttl past state' := by
  refine ⟨?_, fun call hcall => Nat.le_trans (h.clock_le call hcall) hclock, h.ascending⟩
  rw [hsource]
  exact h.source

/-- What a call leaves in the cache is accounted for by the call. -/
theorem stamped?_refill (hq : query.isListing = true)
    (hcall : cache.kept? call.before.clock call.query = none)
    (hsource : call.before.source = .cached config cache)
    (h : cache.stamped? query = latest? network config query past) :
    (cache.refill call.before.clock call.query
        (SourceM.fetch network config call.query call.before).1).stamped? query
      = latest? network config query (past ++ [call]) := by
  rw [latest?_append_singleton]
  by_cases hne : query = call.query
  · subst hne
    rw [Call.brought?_of_not_kept? ((Call.kept?_eq hsource).trans hcall)]
    cases (SourceM.fetch network config call.query call.before).1 with
    | ok found => exact Cache.stamped?_put_self hq found
    | error _ => exact h
  · rw [Cache.stamped?_refill_of_ne hne, Call.brought?_of_ne (Ne.symm hne), h]
    rfl

/-- **Every call keeps the account.** -/
theorem append (h : IsAccounted network config ttl past call.before) :
    IsAccounted network config ttl (past ++ [call]) (call.after network) := by
  obtain ⟨cache, hsource, httl, hstamped⟩ := h.source
  have hclock : (call.after network).clock = call.before.clock :=
    SourceM.clock_ask network call.query call.before
  refine ⟨?source, ?clock_le, ?ascending⟩
  case source =>
    rcases hkept : cache.kept? call.before.clock call.query with _ | found
    · rw [Call.after, SourceM.ask_of_not_kept? network hsource hkept]
      refine ⟨_, rfl, (Cache.ttl_refill _).trans httl, fun query hq => ?_⟩
      exact stamped?_refill hq hkept hsource (hstamped query hq)
    · rw [Call.after, SourceM.ask_of_kept? network hsource hkept]
      refine ⟨cache, hsource, httl, fun query hq => ?_⟩
      have hnone : call.brought? network config query = none := by
        refine Call.brought?_of_kept? ?_
        rw [Call.kept?_eq hsource, hkept]
        rfl
      rw [latest?_append_singleton, hnone, Option.none_or]
      exact hstamped query hq
  case clock_le =>
    intro other ho
    rw [hclock]
    rcases List.mem_append.mp ho with ho | ho
    · exact h.clock_le other ho
    · exact Nat.le_of_eq (congrArg (·.before.clock) (List.mem_singleton.mp ho))
  case ascending =>
    refine List.pairwise_append.mpr
      ⟨h.ascending, List.pairwise_singleton _ _, fun other ho later hl => ?_⟩
    rw [List.mem_singleton.mp hl]
    exact h.clock_le other ho

/-- **A quiet step keeps the account**, unless the cache gives something up. -/
theorem quiet {step : Step σ} (hquiet : step.isQuiet = true)
    (hstep : ∀ province, step ≠ .evict province) (h : IsAccounted network config ttl past state) :
    IsAccounted network config ttl past (Session.step network step state).2 := by
  obtain ⟨cache, hsource, -⟩ := h.source
  cases step with
  | reload directory =>
    show IsAccounted network config ttl past (SourceM.reload directory state).2
    rw [SourceM.reload_eq directory (by simp [hsource])]
    exact h
  | advance nanoseconds => exact h.of_source_eq rfl (Nat.le_add_right _ _)
  | evict province => exact absurd rfl (hstep province)
  | rewire change => exact h.of_source_eq rfl (Nat.le_refl _)
  | provinces | municipalities _ | stations _ | visit _ _ _ => cases hquiet

/-! ## Calls that are accounted for -/

/-- **A listing is kept while it is fresh**, as the latest answer of the service tells. -/
theorem kept?_eq (h : IsAccounted network config ttl past call.before)
    (hq : call.query.isListing = true) :
    call.kept?
      = (latest? network config call.query past).bind (·.fresh? ttl call.before.clock) := by
  obtain ⟨cache, hsource, rfl, hstamped⟩ := h.source
  rw [Call.kept?_eq hsource, Cache.kept?, hstamped _ hq]

/-- What is kept is the latest answer. -/
theorem latest?_of_kept? (h : IsAccounted network config ttl past call.before)
    {found : call.query.Found} (hfound : call.kept? = some found) :
    ∃ since, latest? network config call.query past = some ⟨found, since⟩ := by
  obtain ⟨cache, hsource, -, hstamped⟩ := h.source
  rw [Call.kept?_eq hsource] at hfound
  rcases hq : call.query.isListing with _ | _
  · rw [Cache.kept?_eq_none hq] at hfound
    cases hfound
  · rw [← hstamped _ hq]
    exact Cache.stamped?_of_kept? hfound

/-- The latest answer is at least as late as any other. -/
theorem since_le (h : IsAccounted network config ttl past state) {c : Call σ}
    {stamped other : Stamped query.Found}
    (hlatest : latest? network config query past = some stamped) (hc : c ∈ past)
    (hother : c.brought? network config query = some other) : other.since ≤ stamped.since := by
  obtain ⟨before, call, after, rfl, hcall, hafter⟩ := latest?_eq_some_iff.mp hlatest
  rw [Call.since_of_brought? hcall, Call.since_of_brought? hother]
  rcases List.mem_append.mp hc with hc | hc
  · exact (List.pairwise_append.mp h.ascending).2.2 c hc call List.mem_cons_self
  · rcases List.mem_cons.mp hc with rfl | hc
    · exact Nat.le_refl _
    · rw [hafter c hc] at hother
      cases hother

end IsAccounted

/-- How a call is answered, in terms of what the service said to the calls before it. -/
structure IsAnsweredByHistory (network : Network σ) (config : ClientConfig) (ttl : Nat)
    (earlier : List (Call σ)) (call : Call σ) : Prop where
  /-- A listing is kept exactly when the service gave it less than the time to live ago and the
  clock has not come to its end. -/
  kept_iff : call.query.isListing = true → (call.kept?.isSome = true ↔
    (∃ past ∈ earlier, ∃ given, past.brought? network config call.query = some given
      ∧ call.before.clock < given.since + ttl) ∧ call.before.clock < clockEnd)
  /-- What is kept is said, nothing is asked and nothing changes; it is the latest that the service
  gave. -/
  of_kept : ∀ found, call.kept? = some found →
    call.outcome network = .ok found ∧ call.after network = call.before
      ∧ ∃ before past after since, earlier = before ++ past :: after
        ∧ past.brought? network config call.query = some ⟨found, since⟩
        ∧ ∀ other ∈ after, other.brought? network config call.query = none
  /-- What is not kept is fetched, by the same request as without a cache. -/
  of_not_kept : call.kept? = none → call.outcome network = (call.uncached config).outcome network
    ∧ (call.after network).network = ((call.uncached config).after network).network
    ∧ (call.after network).sent = ((call.uncached config).after network).sent
  /-- A fault leaves the cache as it is. -/
  of_error : ∀ fault, call.outcome network = .error fault →
    (call.after network).source = call.before.source
  /-- Other questions stand in the cache as before. -/
  of_other : ∀ query, query ≠ call.query →
    (call.after network).source.stamped? query = call.before.source.stamped? query
  /-- Stations are neither looked for in the cache nor put there. -/
  of_stations : call.query.isListing = false →
    call.kept? = none ∧ (call.after network).source = call.before.source

namespace IsAccounted

theorem kept_iff (h : IsAccounted network config ttl past call.before)
    (hq : call.query.isListing = true) : call.kept?.isSome = true ↔
      (∃ c ∈ past, ∃ given, c.brought? network config call.query = some given
        ∧ call.before.clock < given.since + ttl) ∧ call.before.clock < clockEnd := by
  rw [h.kept?_eq hq]
  rcases hlatest : latest? network config call.query past with _ | stamped
  · -- nothing was given, so nothing is kept
    rw [latest?_eq_none_iff] at hlatest
    constructor
    · intro hnone
      cases hnone
    · rintro ⟨⟨c, hc, given, hgiven, -⟩, -⟩
      rw [hlatest c hc] at hgiven
      cases hgiven
  · rw [Option.bind_some, isSome_fresh?_iff]
    refine and_congr_left fun _ => ⟨fun hfresh => ?_, fun ⟨c, hc, given, hgiven, hfresh⟩ => ?_⟩
    · obtain ⟨before, c, after, rfl, hc, -⟩ := latest?_eq_some_iff.mp hlatest
      exact ⟨c, List.mem_append_cons_self, stamped, hc, hfresh⟩
    · have hle := h.since_le hlatest hc hgiven
      omega

/-- A call that is accounted for is answered by its history. -/
theorem isAnsweredByHistory (h : IsAccounted network config ttl past call.before) :
    IsAnsweredByHistory network config ttl past call := by
  obtain ⟨cache, hsource, httl, hstamped⟩ := h.source
  have hkept := Call.kept?_eq hsource
  have hsource' := SourceM.source_ask network call.query hsource
  refine ⟨h.kept_iff, fun found hfound => ?of_kept, fun hnone => ?of_not_kept,
    fun fault hfault => ?of_error, fun query hne => ?of_other, fun hq => ?of_stations⟩
  case of_kept =>
    have hask := SourceM.ask_of_kept? network hsource (hkept.symm.trans hfound)
    refine ⟨congrArg Prod.fst hask, congrArg Prod.snd hask, ?_⟩
    obtain ⟨since, hlatest⟩ := h.latest?_of_kept? hfound
    obtain ⟨before, c, after, hpast, hc, hafter⟩ := latest?_eq_some_iff.mp hlatest
    exact ⟨before, c, after, since, hpast, hc, hafter⟩
  case of_not_kept =>
    have hask := SourceM.ask_of_not_kept? network hsource (hkept.symm.trans hnone)
    have huncached := call.ask_uncached network config
    exact ⟨(congrArg Prod.fst hask).trans (congrArg Prod.fst huncached).symm,
      (congrArg (·.2.network) hask).trans (congrArg (·.2.network) huncached).symm,
      (congrArg (·.2.sent) hask).trans (congrArg (·.2.sent) huncached).symm⟩
  case of_error =>
    rcases hsource' with hsame | hrefill
    · exact hsame
    · have herror :
          SourceM.ask network call.query call.before = (.error fault, call.after network) :=
        Prod.ext hfault rfl
      rw [herror] at hrefill
      exact hrefill.trans hsource.symm
  case of_other =>
    rcases hsource' with hsame | hrefill
    · rw [Call.after, hsame]
    · rw [Call.after, hrefill, hsource]
      exact Cache.stamped?_refill_of_ne hne _
  case of_stations =>
    refine ⟨hkept.trans (Cache.kept?_eq_none hq), ?_⟩
    rcases hsource' with hsame | hrefill
    · exact hsame
    · rw [Cache.refill_eq_self hq] at hrefill
      exact hrefill.trans hsource.symm

end IsAccounted

/-- **A cache answers by its history.**  Whatever the network does, each call of a session behind a
cache is answered as told by `IsAnsweredByHistory`, be it a step of its own or part of the answer to
a visitor, as long as the cache does not have to make room. -/
theorem answered_by_history (network : Network σ) (config : ClientConfig)
    (cacheConfig : CacheConfig) (source : Source) (clock : Nat) (memory : σ)
    (sent : List ApiRequest) (steps : List (Step σ))
    (hsource : Source.ofCachedClient config cacheConfig = .ok source)
    (hsteps : ∀ step ∈ steps, ∀ province, step ≠ .evict province)
    (earlier later : List (Call σ)) (call : Call σ)
    (hcalls : Session.calls network steps ⟨source, clock, memory, sent⟩
      = earlier ++ call :: later) :
    IsAnsweredByHistory network config cacheConfig.ttl earlier call := by
  have hat : AtEach (IsAccounted network config cacheConfig.ttl) []
      (Session.calls network steps ⟨source, clock, memory, sent⟩) :=
    Session.calls_invariant (fun _ _ h => h.append)
      (fun step hstep hquiet _ _ h => h.quiet hquiet (hsteps step hstep))
      (.nil clock memory sent hsource)
  rw [hcalls] at hat
  exact hat.at_call.isAnsweredByHistory

/-- The provinces are asked for twice within an hour, of a service that has none. -/
theorem provinces_answered_by_history :
    let network : Network Unit := .fixed fun _ => .answer 200 (some "[]")
    let ttl := nanoseconds 3600
    let start : SourceState Unit := ⟨.cached .initial ⟨ttl, none, .empty⟩, 0, (), []⟩
    let next := (Session.step network .provinces start).2
    let later := (Session.step network (.advance (ttl - 1)) next).2
    IsAnsweredByHistory network .initial ttl [⟨.provinces, start⟩] ⟨.provinces, later⟩ :=
  answered_by_history _ .initial .initial _ 0 () []
    [.provinces, .advance (nanoseconds 3600 - 1), .provinces] rfl (by simp) _ [] _ rfl

/-- **When the clock of the cache has come to its end, nothing is kept**: the provinces are fetched
although the service gave them at the same moment, with an hour to live. -/
theorem not_kept_at_clockEnd :
    ∃ past call : Call Unit,
      Session.calls (.fixed fun _ => .answer 200 (some "[]"))
          [.advance clockEnd, .provinces, .provinces]
          ⟨.cached ⟨"http://h", 1, 1⟩ ⟨nanoseconds 3600, none, .empty⟩, 0, (), []⟩
            = [past] ++ [call]
        ∧ call.query.isListing = true
        ∧ ¬ (call.kept?.isSome = true ↔ ∃ earlier ∈ [past], ∃ given,
          earlier.brought? (.fixed fun _ => .answer 200 (some "[]")) ⟨"http://h", 1, 1⟩ call.query
              = some given
            ∧ call.before.clock < given.since + nanoseconds 3600) := by
  refine ⟨_, _, rfl, rfl, fun hiff => ?_⟩
  have hsome : (Call.brought? (.fixed fun _ => .answer 200 (some "[]")) ⟨"http://h", 1, 1⟩
      .provinces ⟨.provinces, ⟨.cached ⟨"http://h", 1, 1⟩ ⟨nanoseconds 3600, none, .empty⟩,
        clockEnd, (), []⟩⟩).isSome = true := by
    decide +kernel
  obtain ⟨given, hgiven⟩ := Option.isSome_iff_exists.mp hsome
  have hkept := hiff.mpr ⟨_, List.mem_singleton_self _, given, hgiven, by
    rw [Call.since_of_brought? hgiven]
    decide +kernel⟩
  rw [Call.kept?_of_clockEnd_le (by decide +kernel)] at hkept
  cases hkept

end StationFinder
