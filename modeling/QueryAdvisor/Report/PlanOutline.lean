import QueryAdvisor.Plan.Basic
import QueryAdvisor.Report.Outline

/-!
# Plans as outlines

The outline of a plan has a node for each plan node, labelled with its kind,
the relation it reads, and its filter.
-/

namespace QueryAdvisor

/-- A plan node in one line: `kind (relation, as alias) | filter`. -/
def planLabel (node : PlanNode) : String :=
  let parts := node.relation?.toList ++ (node.alias?.map ("as " ++ ·)).toList
  node.kind?.getD "Plan Node"
    ++ (if parts.isEmpty then "" else " (" ++ String.intercalate ", " parts ++ ")")
    ++ (match node.filter? with
        | none => ""
        | some condition => " | " ++ condition)

mutual

/-- The outline of a plan node and its descendants. -/
def planNodeOutline (node : PlanNode) : Outline :=
  .node (planLabel node) (planNodeOutlines node.children)
termination_by (node.size, 0)
decreasing_by
  exact Prod.Lex.left _ _ node.sizes_children_lt

/-- The outlines of some plan nodes. -/
def planNodeOutlines (nodes : List PlanNode) : List Outline :=
  match nodes with
  | [] => []
  | node :: rest => planNodeOutline node :: planNodeOutlines rest
termination_by (PlanNode.sizes nodes, 1)
decreasing_by
  · simp only [PlanNode.sizes, Prod.lex_def]
    omega
  · simp only [PlanNode.sizes, PlanNode.size, Prod.lex_def]
    omega

end

/-- The outline of a plan, if it has a root node. -/
def planOutline? (plan : Option Tree) : Option Outline :=
  ((planRoot? plan).bind PlanNode.ofTree?).map planNodeOutline

end QueryAdvisor
