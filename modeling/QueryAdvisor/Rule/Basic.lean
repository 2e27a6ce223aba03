import QueryAdvisor.ParseTree.Pattern
import QueryAdvisor.Plan.Basic
import QueryAdvisor.Request.Basic
import QueryAdvisor.Suggestion

/-!
# Rules

A rule looks at the parse tree and the execution plan of one request, either
of which may be absent, and makes suggestions or fails.
-/

namespace QueryAdvisor

/-- What a rule looks at. -/
structure RuleInput where
  ast : Option Tree := none
  plan : Option Tree := none
  request : Request

namespace RuleInput

/-- Every object of the parse tree. -/
def astObjects (input : RuleInput) : List Fields :=
  input.ast.toList.flatMap Tree.walk

/-- Every comparison of the parse tree. -/
def comparisons (input : RuleInput) : List ParseTree.Comparison :=
  input.astObjects.filterMap ParseTree.Comparison.ofFields?

/-- Every node of the plan. -/
def planNodes (input : RuleInput) : List PlanNode :=
  QueryAdvisor.planNodes input.plan

end RuleInput

/-- Why a rule failed. -/
inductive RuleError where
  | unexpectedShape (detail : String)
deriving DecidableEq, Repr

def RuleError.message : RuleError → String
  | .unexpectedShape detail => "unexpected node shape: " ++ detail

/-- A named way to make suggestions. -/
structure Rule where
  name : String
  apply : RuleInput → Except RuleError (List Suggestion)

end QueryAdvisor
