import StationFinder.Source

/-!
# Inquiry — what is asked on the way to an answer

The answer to a visitor may depend on what a source says and on what the clock shows.  An inquiry is
the plan of an answer: it tells what comes of each thing that can be found out.  `Inquiry.run`
carries it out.
-/

namespace StationFinder

/-- What is asked on the way to a value. -/
inductive Inquiry (α : Type) where
  | done (a : α)
  /-- The source is asked, and what it says decides how to go on. -/
  | asks (query : Query) (next : query.Outcome → Inquiry α)
  /-- A look is taken at the clock. -/
  | looks (next : Instant → Inquiry α)

namespace Inquiry

variable {σ α β : Type}

/-- Goes on with what an inquiry comes to. -/
def bind : Inquiry α → (α → Inquiry β) → Inquiry β
  | done a, rest => rest a
  | asks query next, rest => asks query fun outcome => (next outcome).bind rest
  | looks next, rest => looks fun t => (next t).bind rest

instance : Monad Inquiry where
  pure := done
  bind := bind

/-- Asks the source a question. -/
def ask (query : Query) : Inquiry query.Outcome := asks query done

/-- Takes a look at the clock. -/
def now : Inquiry Instant := looks done

/-- Carries out an inquiry.  It comes to nothing when a look is taken at a clock that shows no
time. -/
def run (network : Network σ) (clock : Option Instant) : Inquiry α → SourceM σ (Option α)
  | done a => return some a
  | asks query next => SourceM.ask network query >>= fun outcome => (next outcome).run network clock
  | looks next =>
    match clock with
    | some t => (next t).run network (some t)
    | none => return none

end Inquiry

end StationFinder
