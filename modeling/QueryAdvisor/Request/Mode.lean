import QueryAdvisor.Text.Blank
import QueryAdvisor.Text.Case
import QueryAdvisor.Text.Quoted

/-!
# Modes

A request brings its execution plan along, or names a database to ask for it.
A mode is recognised by its name in any letter case, with white space around
it.
-/

namespace QueryAdvisor

/-- Where the execution plan of a request comes from. -/
inductive Mode where
  /-- The plan is given with the request. -/
  | manual
  /-- The plan is asked of a database. -/
  | connected
deriving DecidableEq, Repr

namespace Mode

def name : Mode → String
  | .manual => "manual"
  | .connected => "connected"

/-- Both modes under their names. -/
def all : List (String × Mode) :=
  [("manual", .manual), ("connected", .connected)]

/-- A text that names no mode. -/
structure Unsupported where
  text : String
deriving DecidableEq, Repr

def Unsupported.message (e : Unsupported) : String :=
  "unsupported mode " ++ Text.quoted e.text

/-- The mode that a text names. -/
def ofText (s : String) : Except Unsupported Mode :=
  let name := Text.lowered (Text.trimmed s)
  if name = "manual" then .ok .manual
  else if name = "connected" then .ok .connected
  else .error ⟨s⟩

end Mode

end QueryAdvisor
