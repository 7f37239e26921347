import StationFinder.Event
import StationFinder.Schedule.Rule

/-!
# Schedule — when a station is open

Opening hours are clauses with semicolons between them.  The text is free and of varying quality,
so reading it never fails: a clause that cannot be read is skipped and reported by
`Schedule.skipped`, and a station without a readable clause is never open.  Where the marker
`L-D: 24H` stands anywhere in the text, the station is open around the clock.
-/

namespace StationFinder

/-- When a station is open. -/
inductive Schedule where
  | always
  /-- Whenever one of the rules covers the time; in the order of the text. -/
  | byRules (rules : List Rule)
deriving DecidableEq, Repr

/-- A clause that was left out, with the reason. -/
structure SkippedClause where
  /-- The clause as it stands in the text, blanks included. -/
  clause : String
  fault : ClauseFault
deriving DecidableEq, Repr

/-- What is told of a clause that was left out. -/
def SkippedClause.event (skipped : SkippedClause) : Event where
  level := .debug
  message := "skipping malformed schedule clause"
  fields := [("clause", skipped.clause), ("error", skipped.fault.message)]

namespace Schedule

/-- What says that a station never closes. -/
def alwaysMarker : List Char := ['L', '-', 'D', ':', ' ', '2', '4', 'H']

/-- The clauses of a text that are not blank. -/
def clauses (raw : List Char) : List (List Char) :=
  (raw.splitOn ';').filter fun clause => Text.trim clause ≠ []

/-- The rule that a clause stands for, if it can be read. -/
def rule? (clause : List Char) : Option Rule := (Rule.parse clause).toOption

/-- What is reported of a clause that cannot be read. -/
def skipped? (clause : List Char) : Option SkippedClause :=
  match Rule.parse clause with
  | .ok _ => none
  | .error fault => some ⟨String.ofList clause, fault⟩

/-- Reads opening hours. -/
def parse (raw : String) : Schedule :=
  if Text.contains alwaysMarker raw.toList then always
  else byRules ((clauses raw.toList).filterMap rule?)

/-- The clauses that are left out when opening hours are read. -/
def skipped (raw : String) : List SkippedClause :=
  if Text.contains alwaysMarker raw.toList then [] else (clauses raw.toList).filterMap skipped?

/-- The rules of a schedule; one that never closes has none. -/
def rules : Schedule → List Rule
  | always => []
  | byRules rules => rules

/-- Whether a schedule has no rules because it never closes. -/
def isAlways : Schedule → Bool
  | always => true
  | byRules _ => false

/-- Whether the station is open at an instant. -/
def isOpen (schedule : Schedule) (t : Instant) : Bool :=
  match schedule with
  | always => true
  | byRules rules => rules.any (·.covers t)

/-- The text of some rules. -/
def write (rules : List Rule) : List Char := [';'].intercalate (rules.map Rule.write)

end Schedule

end StationFinder
