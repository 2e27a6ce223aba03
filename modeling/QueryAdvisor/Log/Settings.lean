/-!
# Log settings

How much is logged follows from how often the command was told to be verbose.
-/

namespace QueryAdvisor.Log

/-- How events are logged. -/
structure Settings where
  /-- One JSON object a line. -/
  json : Bool := false
  /-- Tell where in the program an event happened. -/
  located : Bool := false
  /-- Tell when spans begin and end. -/
  spans : Bool := false
  /-- The filter to use when the environment gives none. -/
  filter : String := "warn"
deriving DecidableEq, Repr

/-- The filter of a verbosity. -/
def verbosityFilter : Nat → String
  | 0 => "warn"
  | 1 => "warn,optiviz_services=info,optiviz_analyzer=info"
  | 2 => "info,optiviz_services=debug,optiviz_analyzer=debug"
  | _ => "debug,optiviz_services=trace,optiviz_analyzer=trace"

/-- The settings of a verbosity. -/
def Settings.ofVerbosity (verbosity : Nat) : Settings where
  located := 3 ≤ verbosity
  spans := 2 ≤ verbosity
  filter := verbosityFilter verbosity

end QueryAdvisor.Log
