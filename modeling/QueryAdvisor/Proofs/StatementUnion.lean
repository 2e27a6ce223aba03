import QueryAdvisor.ParseTree.Build
import QueryAdvisor.Proofs.DefaultEngine
import QueryAdvisor.Proofs.FirstOccurrence
import QueryAdvisor.Proofs.TreeWalk

/-!
# Several statements in one analysis

A query text may hold several statements, and the two rules about parse trees
look at all of them together. What they suggest is a union by first
occurrence: the statements in front keep their suggestions, in place, and the
statements behind add what has not been found before. So the order of the
statements decides where a suggestion stands, and nothing else.

A walk goes through the statements from left to right, so the comparisons of
the whole are those of the statements one after the other, and both rules tell
the first occurrences of what they find there. They compare findings and not
the texts made of them: a pattern on a column called `column` and the same
pattern on no column read alike and are still two findings. That is why the
laws are proved about findings and carried over to suggestions at the end.
-/

namespace QueryAdvisor

open ParseTree

namespace ParseTree

/-- The parse tree that holds some trees of statements. -/
def ofTrees (version : Numeral) (trees : List Tree) : Tree :=
  .object
    [("version", .number version), ("stmts", .list (trees.map fun t => .object [("stmt", t)]))]

theorem ofStatements_eq_ofTrees (statements : List Sql.Statement) :
    ofStatements statements
      = ofTrees (.integer formatVersion) (statements.filterMap statementNode?) := rfl

theorem comparisons_eq_filterMap (t : Tree) :
    comparisons t = t.objects.filterMap Comparison.ofFields? := by
  rw [comparisons, Tree.walk_eq_objects]

/-- The object around a statement is no comparison. -/
theorem comparisons_statements (trees : List Tree) :
    (Tree.objectsItems (trees.map fun t => .object [("stmt", t)])).filterMap Comparison.ofFields?
      = trees.flatMap comparisons := by
  induction trees with
  | nil => rfl
  | cons t rest ih =>
      have hwrapper : Comparison.ofFields? [("stmt", t)] = none := rfl
      rw [List.map_cons, Tree.objectsItems, Tree.objects, Tree.objectsFields, Tree.objectsFields,
        List.append_nil, List.filterMap_append, List.filterMap_cons_none hwrapper, ih,
        List.flatMap_cons, comparisons_eq_filterMap]

/-- The comparisons of a parse tree are those of its statements, one statement
after the other. -/
theorem comparisons_ofTrees (version : Numeral) (trees : List Tree) :
    comparisons (ofTrees version trees) = trees.flatMap comparisons := by
  have hversion : (Tree.number version).objects = [] := by simp only [Tree.objects]
  have hwhole : ∀ stmts, Comparison.ofFields? [("version", .number version), ("stmts", stmts)]
      = none := fun _ => rfl
  rw [comparisons_eq_filterMap, ofTrees, Tree.objects, List.filterMap_cons_none (hwhole _),
    Tree.objectsFields, Tree.objectsFields, Tree.objectsFields, hversion, Tree.objects,
    List.nil_append, List.append_nil, comparisons_statements]

end ParseTree

/-! ## Telling findings once -/

/-- How suggestions about statements go together. -/
structure IsFirstOccurrenceUnion (suggest : List Tree → List Suggestion) : Prop where
  /-- What is suggested about some statements stays in front when others follow. -/
  starts : ∀ a b, suggest a <+: suggest (a ++ b)
  mem_append_iff : ∀ a b s, s ∈ suggest (a ++ b) ↔ s ∈ suggest a ∨ s ∈ suggest b
  /-- Statements that were there before add nothing. -/
  repeated : ∀ a b, (∀ t ∈ b, t ∈ a) → suggest (a ++ b) = suggest a
  /-- Another order of the statements is another order of the suggestions. -/
  reordered : ∀ a b, a.Perm b → (suggest a).Perm (suggest b)

/-- Tells the first occurrences of what is found in some trees. -/
def told {α : Type} [DecidableEq α] (find : Tree → List α) (tell : α → Suggestion)
    (trees : List Tree) : List Suggestion :=
  (distinct (trees.flatMap find)).map tell

theorem isFirstOccurrenceUnion_told {α : Type} [DecidableEq α] (find : Tree → List α)
    (tell : α → Suggestion) : IsFirstOccurrenceUnion (told find tell) where
  starts a b := by
    rw [told, told, List.flatMap_append, distinct_append, List.map_append]
    exact List.prefix_append _ _
  mem_append_iff a b s := by
    simp only [told, List.flatMap_append, List.mem_map, mem_distinct, List.mem_append, or_and_right,
      exists_or]
  repeated a b h := by
    have hfound : ∀ x ∈ b.flatMap find, x ∈ a.flatMap find := by
      intro x hx
      obtain ⟨t, ht, hxt⟩ := List.mem_flatMap.mp hx
      exact List.mem_flatMap.mpr ⟨t, h t ht, hxt⟩
    rw [told, told, List.flatMap_append, distinct_append, distinctFrom_eq_nil hfound,
      List.append_nil]
  reordered a b h := by
    refine (perm_distinct fun x => ?_).map tell
    exact (h.flatMap_right find).mem_iff

/-! ## The two rules -/

/-- What the rule about patterns finds in a tree. -/
def LeadingWildcard.findings (t : Tree) : List LeadingWildcard.Finding :=
  (comparisons t).filterMap finding?

/-- What the rule about functions finds in a tree. -/
def FunctionOnColumn.findings (t : Tree) : List FunctionOnColumn.Finding :=
  ((comparisons t).flatMap Comparison.operands).filterMap finding?

theorem treeComparisons_ofTrees (version : Numeral) (trees : List Tree) :
    treeComparisons (some (ofTrees version trees)) = trees.flatMap comparisons := by
  rw [treeComparisons, Option.toList_some, List.flatMap_cons, List.flatMap_nil, List.append_nil,
    comparisons_ofTrees]

theorem patternSuggestions_ofTrees (version : Numeral) (trees : List Tree) :
    patternSuggestions (some (ofTrees version trees))
      = told LeadingWildcard.findings LeadingWildcard.Finding.suggestion trees := by
  rw [patternSuggestions, treeComparisons_ofTrees, LeadingWildcard.suggestions, told,
    List.filterMap_flatMap]
  rfl

theorem functionSuggestions_ofTrees (version : Numeral) (trees : List Tree) :
    functionSuggestions (some (ofTrees version trees))
      = told FunctionOnColumn.findings FunctionOnColumn.Finding.suggestion trees := by
  rw [functionSuggestions, treeComparisons_ofTrees, FunctionOnColumn.suggestions, told,
    List.flatMap_assoc, List.filterMap_flatMap]
  rfl

/-- A rule never fails on statements, and what it suggests about them is a union
by first occurrence, whatever the plan and the request are. -/
def Rule.UnitesStatements (rule : Rule) : Prop :=
  ∃ suggest, IsFirstOccurrenceUnion suggest ∧
    ∀ version trees plan request,
      rule.apply { ast := some (ofTrees version trees), plan, request } = .ok (suggest trees)

theorem leadingWildcard_unitesStatements : Rule.leadingWildcard.UnitesStatements := by
  refine ⟨_, isFirstOccurrenceUnion_told LeadingWildcard.findings
    LeadingWildcard.Finding.suggestion, ?_⟩
  intro version trees plan request
  rw [apply_leadingWildcard, patternSuggestions_ofTrees]

theorem functionOnColumn_unitesStatements : Rule.functionOnColumn.UnitesStatements := by
  refine ⟨_, isFirstOccurrenceUnion_told FunctionOnColumn.findings
    FunctionOnColumn.Finding.suggestion, ?_⟩
  intro version trees plan request
  rw [apply_functionOnColumn, functionSuggestions_ofTrees]

/-- Both rules about parse trees unite the suggestions about statements, and the
parse tree of a query text is one that holds the trees of its statements. -/
theorem suggestions_unite_statements :
    Rule.leadingWildcard.UnitesStatements ∧ Rule.functionOnColumn.UnitesStatements ∧
      ∀ statements, ofStatements statements
        = ofTrees (.integer formatVersion) (statements.filterMap statementNode?) :=
  ⟨leadingWildcard_unitesStatements, functionOnColumn_unitesStatements, ofStatements_eq_ofTrees⟩

end QueryAdvisor
