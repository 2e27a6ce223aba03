import QueryAdvisor.Rule.Basic
import QueryAdvisor.Text.Quoted

/-!
# Sequential scans

Every plan node that reads a whole relation is reported, in plan order.
-/

namespace QueryAdvisor.SeqScan

/-- The relation that a node reads, or what it is called when it has no name. -/
def relation (node : PlanNode) : String :=
  node.relation?.getD "target table"

/-- The suggestion about a scan of a relation. -/
def suggestion (relation : String) : Suggestion where
  title := "Sequential scan detected"
  description := "The query plan uses a sequential scan on " ++ Text.quoted relation ++ "."
  recommendation :=
    "Consider adding an appropriate index on " ++ Text.quoted relation
      ++ " or rewriting the filter to enable index usage."
  severity := .high

/-- The suggestions about the scans among some nodes. -/
def suggestions (nodes : List PlanNode) : List Suggestion :=
  (nodes.filter PlanNode.isSeqScan).map fun node => suggestion (relation node)

end QueryAdvisor.SeqScan

namespace QueryAdvisor

/-- Reports every sequential scan of the plan. -/
def Rule.seqScan : Rule where
  name := "SeqScan"
  apply input := .ok (SeqScan.suggestions input.planNodes)

end QueryAdvisor
