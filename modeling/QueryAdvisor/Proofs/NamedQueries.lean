import QueryAdvisor.Proofs.Shown
import QueryAdvisor.Proofs.TreeWalk

/-!
# Which named queries a parse tree keeps

A `WITH` clause is attached to the node of the statement behind it, one clause
to a node. So the named queries that a walk meets are exactly those whose
clause has a place of its own, each with its folded name and the tree of its
query, and a named query is lost exactly when its clause has none. That
happens where a clause stands in front of a parenthesised query that has a
clause already, and in front of an insertion into a directory, which has no
node at all.
-/

namespace QueryAdvisor

open ParseTree Sql

/-- The named queries that a walk meets. -/
def ParseTree.namedQueries (t : Tree) : List Fields :=
  t.walk.filterMap fun fields => fields.object? "CommonTableExpr"

/-- The named queries of a query whose clause has no place. -/
def Sql.Query.lostTables (q : Query) : List (Ident × Query) :=
  ((queryMentions false q).filter fun m => !m.shown).filterMap Mention.table?

/-- A named query as its node holds it. -/
def Sql.tableFields (table : Ident × Query) : Fields :=
  [("ctename", .text table.1.name), ("ctequery", queryNode table.2)]

theorem object?_construct_fields (m : Mention) :
    Fields.object? m.construct.fields "CommonTableExpr" = m.table?.map tableFields := by
  obtain ⟨construct, shown⟩ := m
  cases construct <;> rfl

theorem object?_eq_none_of_not_isMarked {fields : Fields} (h : fields.isMarked = false) :
    Fields.object? fields "CommonTableExpr" = none := by
  rw [Fields.object?, Fields.get?_eq_none_of_not_isMarked h rfl]
  rfl

/-- A walk meets the named queries whose clause has a place, in order. -/
theorem namedQueries_queryNode (q : Query) :
    namedQueries (queryNode q) = q.shownTables.map tableFields := by
  rw [namedQueries, Tree.walk_eq_objects,
    ← filterMap_filter_isMarked fun _ => object?_eq_none_of_not_isMarked, ← Tree.marked,
    (marked_queryNode q).1, shownFields, List.filterMap_map, Query.shownTables,
    List.map_filterMap]
  exact congrArg (fun f => List.filterMap f _) (funext object?_construct_fields)

/-- Every named query is shown or lost. -/
theorem length_shown_add_length_hidden (mentions : List Mention) :
    ((mentions.filter Mention.shown).filterMap Mention.table?).length
        + ((mentions.filter fun m => !m.shown).filterMap Mention.table?).length
      = (mentions.filterMap Mention.table?).length := by
  induction mentions with
  | nil => rfl
  | cons m rest ih =>
      cases hs : m.shown <;> cases ht : m.table? <;>
        simp only [List.filter_cons, hs, Bool.not_true, Bool.not_false, if_true, if_false,
          Bool.false_eq_true, List.filterMap_cons, ht, List.length_cons] <;>
        omega

/-- A walk meets each named query once, with its name and its query, unless its
clause has no place; and it meets all of them if and only if every clause has
a place. -/
theorem namedQueries_kept_iff (q : Query) :
    namedQueries (queryNode q) = q.shownTables.map tableFields ∧
      (namedQueries (queryNode q)).length + q.lostTables.length = q.tables.length ∧
      ((namedQueries (queryNode q)).length = q.tables.length ↔ q.lostTables = []) := by
  have hkept := namedQueries_queryNode q
  have hlength : (namedQueries (queryNode q)).length + q.lostTables.length
      = q.tables.length := by
    rw [hkept, List.length_map]
    exact length_shown_add_length_hidden (queryMentions false q)
  refine ⟨hkept, hlength, ?_⟩
  rw [← List.length_eq_zero_iff]
  omega

/-- `SELECT n`. -/
def Sql.selectNumber (digits : String) : SetExpr :=
  .select [.plain (.literal (.number digits))] [] none none

/-- `WITH a AS (SELECT 1) (WITH b AS (SELECT 2) SELECT 3)`. -/
def Sql.doublyNamed : Query :=
  .withTables false [.mk ⟨"a", false⟩ (.plain (selectNumber "1"))]
    (.query (.withTables false [.mk ⟨"b", false⟩ (.plain (selectNumber "2"))] (selectNumber "3")))

/-- The clause in front of a parenthesised query takes the place of the query's
own: of the two named queries, `b` is lost. -/
theorem inner_clause_lost :
    doublyNamed.tables.length = 2 ∧ (namedQueries (queryNode doublyNamed)).length = 1 := by
  refine ⟨rfl, ?_⟩
  rw [namedQueries_queryNode, List.length_map]
  rfl

end QueryAdvisor
