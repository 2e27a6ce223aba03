import QueryAdvisor.Proofs.Shown
import QueryAdvisor.Proofs.TreeWalk
import QueryAdvisor.Rule.Basic

/-!
# The rules see the comparisons of the statements

A rule gets a parse tree and walks it without knowing how it was built. What
it finds there as a comparison, read by kind, name of the operator and
operands, is what the statements mention as a comparison, in the same order.
So a rule about comparisons is a rule about statements, and nothing that it
could report is lost, repeated or moved on the way through the tree.
-/

namespace QueryAdvisor

open ParseTree Sql

namespace ParseTree

/-- What can be read off a comparison. -/
structure Comparison.Reading where
  kind : Option String
  operator : Option String
  left : Option Tree
  right : Option Tree

/-- The name of the operator of a comparison. -/
def Comparison.operator? (c : Comparison) : Option String := do
  let parts ← Fields.list? c.fields "name"
  let last ← parts.getLast?
  segment? last

def Comparison.reading (c : Comparison) : Reading :=
  ⟨c.kind?, c.operator?, c.left?, c.right?⟩

/-- The fields of an operator can be read back. -/
theorem reading_operatorFields (kind name : String) (left : Option Tree) (right : Tree) :
    (Comparison.mk (operatorFields kind name left right)).reading
      = ⟨some kind, some name, left, some right⟩ := by
  cases left <;> rfl

/-- Only a marked object is a comparison. -/
theorem ofFields?_eq_none {fields : Fields} (h : fields.isMarked = false) :
    Comparison.ofFields? fields = none := by
  rw [Comparison.ofFields?, Fields.object?, Fields.get?_eq_none_of_not_isMarked h rfl]
  rfl

end ParseTree

/-- What is read off the comparison that a predicate makes. -/
def Sql.Predicate.reading (p : Predicate) : Comparison.Reading :=
  ⟨some p.kind, some p.operator, p.left.map exprNode, some p.right.tree⟩

/-- The object of a construct is a comparison if the construct is one, and then
it reads as the predicate does. -/
theorem reading_ofFields? (m : Mention) :
    (Comparison.ofFields? m.construct.fields).map Comparison.reading
      = m.predicate?.map Predicate.reading := by
  obtain ⟨construct, shown⟩ := m
  cases construct with
  | predicate p => exact congrArg some (reading_operatorFields _ _ _ _)
  | table name query => rfl

/-- What the shown mentions look like to a reader of comparisons. -/
theorem readings_shownFields (mentions : List Mention) :
    ((shownFields mentions).filterMap Comparison.ofFields?).map Comparison.reading
      = ((mentions.filter Mention.shown).filterMap Mention.predicate?).map Predicate.reading := by
  rw [shownFields, List.filterMap_map, List.map_filterMap, List.map_filterMap]
  exact congrArg (fun f => List.filterMap f _) (funext reading_ofFields?)

/-- The comparisons that a rule finds in the parse tree of some statements are
those of the statements, one by one and in order. -/
theorem comparisons_ofStatements (statements : List Statement) (plan : Option Tree)
    (request : Request) :
    (RuleInput.comparisons { ast := some (ofStatements statements), plan, request }).map
        Comparison.reading
      = (statements.flatMap Statement.predicates).map Predicate.reading := by
  have hobjects : (RuleInput.mk (some (ofStatements statements)) plan request).astObjects
      = (ofStatements statements).objects := by
    rw [RuleInput.astObjects, Option.toList_some, List.flatMap_cons, List.flatMap_nil,
      List.append_nil, Tree.walk_eq_objects]
  have hpredicates : statements.flatMap Statement.predicates
      = ((statements.flatMap Statement.mentions).filter Mention.shown).filterMap
          Mention.predicate? := by
    rw [List.filter_flatMap, List.filterMap_flatMap]
    rfl
  rw [RuleInput.comparisons, hobjects, ← filterMap_filter_isMarked fun _ => ofFields?_eq_none,
    ← Tree.marked, marked_ofStatements, readings_shownFields, ← hpredicates]

end QueryAdvisor
