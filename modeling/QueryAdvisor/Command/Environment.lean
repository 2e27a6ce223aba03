/-!
# The environment

The variables that a command looks at.
-/

namespace QueryAdvisor.Command

/-- The values of the variables that are set. -/
structure Environment where
  /-- The mode, unless the arguments give one. -/
  mode : Option String := none
  /-- The connection string, unless the arguments give one. -/
  connection : Option String := none
  /-- The filter of the log. -/
  logFilter : Option String := none
deriving DecidableEq, Repr

namespace Environment

def modeVariable : String := "OPTIVIZ_MODE"

def connectionVariable : String := "OPTIVIZ_CONN"

def logFilterVariable : String := "RUST_LOG"

end Environment

end QueryAdvisor.Command
