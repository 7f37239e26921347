import StationFinder.Session

/-!
# Proofs/Session/Calls — every question of a session, in its order

A source is asked by the steps of a session and by the answers to visitors, up to three times for
one page.  `Session.calls` lists the questions of a session with the state in which each of them
comes.  What holds at the start and is kept by every question and every other step, where a question
adds to the past, holds at each of these calls (`calls_invariant`).
-/

namespace StationFinder

variable {σ α : Type} {network : Network σ}

/-- A question to a source, with the state in which it comes. -/
structure Call (σ : Type) where
  query : Query
  before : SourceState σ

namespace Call

/-- What a call comes to. -/
def outcome (network : Network σ) (call : Call σ) : call.query.Outcome :=
  (SourceM.ask network call.query call.before).1

/-- The state that a call leaves. -/
def after (network : Network σ) (call : Call σ) : SourceState σ :=
  (SourceM.ask network call.query call.before).2

end Call

/-! ## The calls of a session -/

/-- The questions of an inquiry that is carried out. -/
def Inquiry.calls (network : Network σ) (clock : Option Instant) :
    Inquiry α → SourceState σ → List (Call σ)
  | done _, _ => []
  | asks query next, state =>
    let call : Call σ := ⟨query, state⟩
    call :: (next (call.outcome network)).calls network clock (call.after network)
  | looks next, state =>
    match clock with
    | some t => (next t).calls network (some t) state
    | none => []

/-- Whether a step does not ask the source. -/
def Step.isQuiet : Step σ → Bool
  | .provinces | .municipalities _ | .stations _ | .visit _ _ _ => false
  | .reload _ | .advance _ | .evict _ | .rewire _ => true

namespace Session

/-- The questions of a step. -/
def stepCalls (network : Network σ) : Step σ → SourceState σ → List (Call σ)
  | .provinces, state => [⟨.provinces, state⟩]
  | .municipalities province, state => [⟨.municipalities province, state⟩]
  | .stations scope, state => [⟨.stations scope, state⟩]
  | .visit clock assets request, state => (Server.respond assets request).calls network clock state
  | .reload _, _ | .advance _, _ | .evict _, _ | .rewire _, _ => []

/-- The questions of some steps, one after the other. -/
def calls (network : Network σ) : List (Step σ) → SourceState σ → List (Call σ)
  | [], _ => []
  | step :: steps, state =>
    stepCalls network step state ++ calls network steps (Session.step network step state).2

end Session

/-! ## What holds at every call -/

/-- Something about the past and the present holds at each of some calls, which come one after the
other. -/
def AtEach (I : List (Call σ) → SourceState σ → Prop) : List (Call σ) → List (Call σ) → Prop
  | _, [] => True
  | past, call :: calls => I past call.before ∧ AtEach I (past ++ [call]) calls

namespace AtEach

variable {I : List (Call σ) → SourceState σ → Prop} {call : Call σ}
  {past calls calls' earlier later : List (Call σ)}

theorem append (h : AtEach I past calls) (h' : AtEach I (past ++ calls) calls') :
    AtEach I past (calls ++ calls') := by
  induction calls generalizing past with
  | nil => rwa [List.append_nil] at h'
  | cons call calls ih =>
    refine ⟨h.1, ih h.2 ?_⟩
    rwa [List.append_assoc]

/-- What holds at each call holds at one that is picked out. -/
theorem at_call (h : AtEach I past (earlier ++ call :: later)) :
    I (past ++ earlier) call.before := by
  induction earlier generalizing past with
  | nil =>
    rw [List.append_nil]
    exact h.1
  | cons first earlier ih =>
    rw [List.append_cons]
    exact ih h.2

end AtEach

section Invariant

variable {I : List (Call σ) → SourceState σ → Prop}
  (hcall : ∀ past (call : Call σ), I past call.before → I (past ++ [call]) (call.after network))

include hcall

/-- What every question keeps is kept by an inquiry. -/
theorem Inquiry.calls_invariant (clock : Option Instant) (inquiry : Inquiry α)
    {past : List (Call σ)} {state : SourceState σ} (h : I past state) :
    AtEach I past (inquiry.calls network clock state)
      ∧ I (past ++ inquiry.calls network clock state) (inquiry.run network clock state).2 := by
  induction inquiry generalizing past state with
  | done a =>
    refine ⟨trivial, ?_⟩
    rw [calls, List.append_nil]
    exact h
  | asks query next ih =>
    obtain ⟨hat, hend⟩ := ih _ (hcall past ⟨query, state⟩ h)
    refine ⟨⟨h, hat⟩, ?_⟩
    rw [calls, List.append_cons]
    exact hend
  | looks next ih =>
    cases clock with
    | some t => exact ih t h
    | none =>
      refine ⟨trivial, ?_⟩
      rw [calls, List.append_nil]
      exact h

namespace Session

/-- What every question keeps is kept by a step that asks. -/
theorem stepCalls_invariant {step : Step σ} (hstep : step.isQuiet = false)
    {past : List (Call σ)} {state : SourceState σ} (h : I past state) :
    AtEach I past (stepCalls network step state)
      ∧ I (past ++ stepCalls network step state) (Session.step network step state).2 := by
  cases step with
  | provinces => exact ⟨⟨h, trivial⟩, hcall past ⟨.provinces, state⟩ h⟩
  | municipalities province => exact ⟨⟨h, trivial⟩, hcall past ⟨.municipalities province, state⟩ h⟩
  | stations scope => exact ⟨⟨h, trivial⟩, hcall past ⟨.stations scope, state⟩ h⟩
  | visit clock assets request =>
    exact Inquiry.calls_invariant hcall clock (Server.respond assets request) h
  | reload _ | advance _ | evict _ | rewire _ => cases hstep

/-- **What every question and every other step keeps holds at each call of a session.** -/
theorem calls_invariant {steps : List (Step σ)}
    (hquiet : ∀ step ∈ steps, step.isQuiet = true → ∀ past state, I past state →
      I past (Session.step network step state).2)
    {past : List (Call σ)} {state : SourceState σ} (h : I past state) :
    AtEach I past (calls network steps state) := by
  induction steps generalizing past state with
  | nil => trivial
  | cons step steps ih =>
    obtain ⟨hfirst, hrest⟩ := List.forall_mem_cons.mp hquiet
    rcases hq : step.isQuiet with _ | _
    · obtain ⟨hat, hend⟩ := stepCalls_invariant hcall hq h
      exact hat.append (ih hrest hend)
    · have hnone : stepCalls network step state = [] := by
        cases step <;> first | rfl | cases hq
      rw [calls, hnone, List.nil_append]
      exact ih hrest (hfirst hq past state h)

end Session

end Invariant

end StationFinder
