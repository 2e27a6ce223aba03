import QueryAdvisor.Json.Reader
import QueryAdvisor.Plan.Basic

/-!
# EXPLAIN payloads

A database answers with a list of one plan object. Reading a payload keeps the
object: an object stands for itself, a list for its first item, which must be
an object, and anything else is refused. What stands around the root node of
the plan is left in place.
-/

namespace QueryAdvisor

/-- Why there is no execution plan. -/
inductive PlanError where
  /-- The payload is no JSON text; `message` says where and why. -/
  | invalidJson (message : String)
  | emptyResult
  | unexpectedShape
  | unsupportedFormat
  | connection (detail : String)
  | query (detail : String)
deriving DecidableEq, Repr

namespace PlanError

def message : PlanError → String
  | .invalidJson message => "Invalid JSON: " ++ message
  | .emptyResult => "empty explain result"
  | .unexpectedShape => "unexpected explain array shape"
  | .unsupportedFormat => "unsupported explain plan format"
  | .connection detail => "Connection error: " ++ detail
  | .query detail => "Query error: " ++ detail

/-- The message of what lies behind the error, if anything does. -/
def source? : PlanError → Option String
  | .invalidJson message => some message
  | _ => none

end PlanError

/-- The plan object of a payload. -/
def normalizePlan : Tree → Except PlanError Tree
  | .object fields => .ok (.object fields)
  | .list [] => .error .emptyResult
  | .list (.object fields :: _) => .ok (.object fields)
  | .list _ => .error .unexpectedShape
  | _ => .error .unsupportedFormat

/-- Reads a payload from its text and keeps the plan object. -/
def decodePlan (text : String) : Except PlanError Tree :=
  match Tree.ofJson text with
  | .error fault => .error (.invalidJson (fault.message text))
  | .ok payload => normalizePlan payload

/-- The times that a plan reports, in milliseconds. -/
structure PlanTiming where
  planning : Option Binary64
  execution : Option Binary64
deriving DecidableEq, Repr

/-- The times that a plan reports, if it reports any. -/
def planTiming? (plan : Tree) : Option PlanTiming :=
  let planning := (plan.field? "Planning Time").bind Tree.asFloat?
  let execution := (plan.field? "Execution Time").bind Tree.asFloat?
  if planning.isNone && execution.isNone then none else some ⟨planning, execution⟩

end QueryAdvisor
