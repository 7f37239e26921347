import StationFinder.Proofs.Session.Transparency

/-!
# Proofs/Source/Settled — sources that do not change

A source is *settled* when a question comes to the same whatever was asked before.  A directory of
files is, and so is the price service where every path has its reply once and for all, with a cache
in front of it or without.  What an inquiry comes to over a settled source can be told from the
answers alone (`Inquiry.eval`), with no word about states (`SourceM.IsSettled.run`).
-/

namespace StationFinder

variable {σ α β : Type} {network : Network σ} {answers : (query : Query) → query.Outcome}
  {state : SourceState σ}

/-! ## Inquiries with known answers -/

namespace Inquiry

/-- What an inquiry comes to at an instant, when it is known what the questions come to. -/
def eval (answers : (query : Query) → query.Outcome) (t : Instant) : Inquiry α → α
  | done a => a
  | asks query next => (next (answers query)).eval answers t
  | looks next => (next t).eval answers t

@[simp] theorem eval_pure (a : α) (t : Instant) : (pure a : Inquiry α).eval answers t = a := rfl

@[simp] theorem eval_ask (query : Query) (t : Instant) :
    (ask query).eval answers t = answers query := rfl

@[simp] theorem eval_now (t : Instant) : now.eval answers t = t := rfl

@[simp] theorem eval_bind (inquiry : Inquiry α) (rest : α → Inquiry β) (t : Instant) :
    (inquiry >>= rest).eval answers t = (rest (inquiry.eval answers t)).eval answers t := by
  show (inquiry.bind rest).eval answers t = _
  induction inquiry with
  | done a => rfl
  | asks query next ih => exact ih _
  | looks next ih => exact ih t

@[simp] theorem eval_map (f : α → β) (inquiry : Inquiry α) (t : Instant) :
    (f <$> inquiry).eval answers t = f (inquiry.eval answers t) :=
  eval_bind inquiry (fun a => pure (f a)) t

end Inquiry

/-! ## Settled sources -/

namespace SourceM

/-- The state of a source after some questions. -/
def asked (network : Network σ) (earlier : List Query) (state : SourceState σ) : SourceState σ :=
  earlier.foldl (fun state query => (ask network query state).2) state

/-- Whatever was asked before, a question comes to the given outcome. -/
def IsSettled (network : Network σ) (answers : (query : Query) → query.Outcome)
    (state : SourceState σ) : Prop :=
  ∀ earlier query, (ask network query (asked network earlier state)).1 = answers query

namespace IsSettled

theorem outcome (h : IsSettled network answers state) (query : Query) :
    (SourceM.ask network query state).1 = answers query := h [] query

theorem ask (h : IsSettled network answers state) (query : Query) :
    IsSettled network answers (SourceM.ask network query state).2 :=
  fun earlier => h (query :: earlier)

/-- A source is settled if something holds of it that every question keeps and that decides what
the questions come to. -/
theorem of_invariant {I : SourceState σ → Prop} (h : I state)
    (hkept : ∀ state query, I state → (SourceM.ask network query state).1 = answers query
      ∧ I (SourceM.ask network query state).2) : IsSettled network answers state := by
  intro earlier
  induction earlier generalizing state with
  | nil => exact fun query => (hkept state query h).1
  | cons first earlier ih => exact ih (hkept state first h).2

/-- **Over a settled source an inquiry comes to what the answers make of it**, and the source stays
settled. -/
theorem run (h : IsSettled network answers state) (t : Instant) (inquiry : Inquiry α) :
    ∃ state', inquiry.run network (some t) state = (some (inquiry.eval answers t), state')
      ∧ IsSettled network answers state' := by
  induction inquiry generalizing state with
  | done a => exact ⟨state, rfl, h⟩
  | asks query next ih =>
    obtain ⟨state', hrun, hsettled⟩ := ih (answers query) (h.ask query)
    refine ⟨state', ?_, hsettled⟩
    rw [← h.outcome query] at hrun
    rw [Inquiry.eval, ← h.outcome query]
    exact hrun
  | looks next ih => exact ih t h

/-! ## Which sources are settled -/

/-- **A directory of files is settled.** -/
theorem of_fixtures {fixtures : Fixtures} (h : state.source = .fixtures fixtures) :
    IsSettled network (fun query => (SourceM.ask network query state).1) state := by
  refine of_invariant (I := (· = state)) rfl ?_
  rintro _ query rfl
  exact ⟨rfl, ask_fixtures h⟩

variable {reply : String → Reply} {config : ClientConfig} {state : SourceState Unit}

/-- **The price service is settled where every path has its reply.** -/
theorem of_client (h : state.source = .client config) :
    IsSettled (.fixed reply) (Query.settled reply config) state := by
  refine of_invariant (I := fun state => state.source = .client config) h ?_
  intro state query hsource
  rw [ask_client hsource, fetch_fixed]
  exact ⟨rfl, hsource⟩

/-- **So it is behind a cache** in which there is nothing but its answers. -/
theorem of_cached {cache : Cache} (h : state.source = .cached config cache)
    (htruth : cache.IsTruthful reply config) :
    IsSettled (.fixed reply) (Query.settled reply config) state := by
  refine of_invariant (I := fun state => ∃ cache : Cache, state.source = .cached config cache
    ∧ cache.IsTruthful reply config) ⟨cache, h, htruth⟩ ?_
  rintro state query ⟨cache, hsource, htruth⟩
  rcases hkept : cache.kept? state.clock query with _ | found
  · rw [ask_of_not_kept? _ hsource hkept, fetch_fixed]
    exact ⟨rfl, _, rfl, htruth.refill⟩
  · rw [ask_of_kept? _ hsource hkept, htruth.settled_of_kept? hkept]
    exact ⟨rfl, cache, hsource, htruth⟩

end IsSettled

end SourceM

end StationFinder
