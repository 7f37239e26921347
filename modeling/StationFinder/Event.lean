/-!
# Event — what the program tells its operator

Nothing that is left out or replaced goes unmentioned: it is told as an event, with the values it is
about.  Events are returned beside the results, in the order in which things were looked at.
-/

namespace StationFinder

/-- How much an event matters. -/
inductive Level where
  | debug
  | warning
deriving DecidableEq, Repr

/-- The level as a log writes it. -/
def Level.text : Level → String
  | debug => "DEBUG"
  | warning => "WARN"

/-- One thing worth telling. -/
structure Event where
  level : Level
  message : String
  /-- The values it is about, with their names. -/
  fields : List (String × String)
deriving DecidableEq, Repr

end StationFinder
