import StationFinder.Server

/-!
# Session — what happens to a source in the course of time

A session is a list of steps: questions to the source, requests from visitors, the passing of
time, and changes behind the source's back.  Each step has an answer, and each begins where the
last one ended.  A cache may make room whenever it likes.
-/

namespace StationFinder

/-- A step of a session over a network with a memory of type `σ`. -/
inductive Step (σ : Type) where
  | provinces
  | municipalities (province : ProvinceId)
  | stations (scope : Scope)
  /-- A request, with what the clock shows and which files there are when it comes. -/
  | visit (clock : Option Instant) (assets : Server.Assets) (request : Http.Request)
  | reload (directory : Directory)
  | advance (nanoseconds : Nat)
  /-- The cache gives up the municipalities of a province. -/
  | evict (province : ProvinceId)
  /-- The network changes. -/
  | rewire (change : σ → σ)

/-- What a step comes to. -/
inductive Answer where
  | provinces (list : Except SourceFault (List Province))
  | municipalities (list : Except SourceFault (List Municipality))
  | stations (list : Except SourceFault (List Station))
  | response (response : Http.Response)
  /-- The request has no answer, and brings the session to its end. -/
  | breakdown
  | reloaded (result : Except SourceFault Unit)
  | nothing

namespace Session

variable {σ : Type}

/-- Takes a step. -/
def step (network : Network σ) : Step σ → SourceM σ Answer
  | .provinces => return .provinces (← SourceM.ask network .provinces)
  | .municipalities province =>
    return .municipalities (← SourceM.ask network (.municipalities province))
  | .stations scope => return .stations (← SourceM.ask network (.stations scope))
  | .visit clock assets request => do
    let response ← (Server.respond assets request).run network clock
    return (response.map Answer.response).getD .breakdown
  | .reload directory => return .reloaded (← SourceM.reload directory)
  | .advance nanoseconds => do SourceM.advance nanoseconds; return .nothing
  | .evict province => do SourceM.evict province; return .nothing
  | .rewire change => do
    modify fun state => { state with network := change state.network }
    return .nothing

/-- Takes some steps, one after the other. -/
def run (network : Network σ) (steps : List (Step σ)) : SourceM σ (List Answer) :=
  steps.mapM (step network)

end Session

end StationFinder
