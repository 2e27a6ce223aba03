import QueryAdvisor.Proofs.Mentions
import QueryAdvisor.Proofs.Shape
import QueryAdvisor.Proofs.TreeWalk

/-!
# Texts do not change the shape of a parse tree

Names and texts come from whoever wrote the query. They end up in the leaves
of the parse tree and nowhere else: statements with one skeleton have parse
trees of one shape, so a walk meets the same nodes at the same places,
whatever the texts are. In particular no text can make a comparison, a column
or a function call appear, or disappear.

The proof compares the tree of a statement with that of its skeleton, by an
induction over the syntax that follows the builder; what a case needs is that
the node of a construct takes its shape from its parts, which is in `Shape`.
The clause of a query needs one thing more: it is put into a node that has
been built before, and that only works if the node is the node of a statement.
-/

namespace QueryAdvisor

open ParseTree Sql QueryAdvisor.Tree

/-- What is built of two expressions has one shape throughout: the node, and
what goes into a chain of either operator. -/
structure ParseTree.Built.SameShape (a b : Built) : Prop where
  node : a.node.shape = b.node.shape
  conjuncts : shapeItems a.conjuncts = shapeItems b.conjuncts
  disjuncts : shapeItems a.disjuncts = shapeItems b.disjuncts

theorem ParseTree.Built.SameShape.single {t u : Tree} (h : t.shape = u.shape) :
    (Built.single t).SameShape (Built.single u) := by
  have hitems : shapeItems [t] = shapeItems [u] := by simp only [shapeItems, h]
  exact ⟨h, hitems, hitems⟩

theorem map_shape_some {t u : Tree} (h : t.shape = u.shape) :
    (some t).map shape = (some u).map shape := by
  rw [Option.map_some, Option.map_some, h]

theorem map_shape_cases {x y : Option Tree} (h : x.map shape = y.map shape) :
    (x = none ∧ y = none) ∨ ∃ t u, x = some t ∧ y = some u ∧ t.shape = u.shape := by
  cases x with
  | none => exact .inl ⟨rfl, Option.map_eq_none_iff.mp h.symm⟩
  | some t =>
      obtain ⟨u, hu, hshape⟩ := Option.map_eq_some_iff.mp h.symm
      exact .inr ⟨t, u, rfl, hu, hshape.symm⟩

theorem shapeItems_toList (x : Option Tree) : shapeItems x.toList = (x.map shape).toList := by
  cases x <;> simp only [Option.toList_none, Option.toList_some, shapeItems, Option.map_none,
    Option.map_some]

theorem any_isStar_argsSkeleton (args : List Arg) :
    (argsSkeleton args).any isStar = args.any isStar := by
  induction args with
  | nil => rw [argsSkeleton]
  | cons arg rest ih =>
      cases arg <;> rw [argsSkeleton, List.any_cons, List.any_cons, ih] <;> rfl

mutual

theorem built_sameShape (e : Expr) : (built (exprSkeleton e)).SameShape (built e) := by
  match e with
  | .identifier name =>
      rw [exprSkeleton, built, built]
      exact .single (shape_columnFields_skeleton [name] [])
  | .compound parts =>
      have h := shape_columnFields_skeleton parts []
      rw [List.append_nil, List.append_nil] at h
      rw [exprSkeleton, built, built]
      exact .single h
  | .literal value =>
      rw [exprSkeleton, built, built]
      exact .single (shape_literalNode_skeleton value)
  | .special _ _ =>
      rw [exprSkeleton, built, built]
      exact .single rfl
  | .nested inner =>
      rw [exprSkeleton, built, built]
      exact .single (built_sameShape inner).node
  | .binary left .and right =>
      have hargs : shapeItems ((built (exprSkeleton left)).conjuncts
            ++ (built (exprSkeleton right)).conjuncts)
          = shapeItems ((built left).conjuncts ++ (built right).conjuncts) := by
        rw [shapeItems_append, shapeItems_append, (built_sameShape left).conjuncts,
          (built_sameShape right).conjuncts]
      have hnode := shape_boolExpr_congr "AND_EXPR" hargs
      rw [exprSkeleton, BinaryOp.skeleton, built, built]
      exact ⟨hnode, hargs, (Built.SameShape.single hnode).disjuncts⟩
  | .binary left .or right =>
      have hargs : shapeItems ((built (exprSkeleton left)).disjuncts
            ++ (built (exprSkeleton right)).disjuncts)
          = shapeItems ((built left).disjuncts ++ (built right).disjuncts) := by
        rw [shapeItems_append, shapeItems_append, (built_sameShape left).disjuncts,
          (built_sameShape right).disjuncts]
      have hnode := shape_boolExpr_congr "OR_EXPR" hargs
      rw [exprSkeleton, BinaryOp.skeleton, built, built]
      exact ⟨hnode, (Built.SameShape.single hnode).conjuncts, hargs⟩
  | .binary left (.symbol _) right =>
      rw [exprSkeleton, BinaryOp.skeleton, built, built]
      exact .single (shape_operatorNode_congr (map_shape_some (built_sameShape left).node)
        (built_sameShape right).node)
  | .unary .not operand =>
      rw [exprSkeleton, UnaryOp.skeleton, built, built]
      refine .single (shape_boolExpr_congr _ ?_)
      simp only [shapeItems, (built_sameShape operand).node]
  | .unary (.symbol _) operand =>
      rw [exprSkeleton, UnaryOp.skeleton, built, built]
      exact .single (shape_operatorNode_congr rfl (built_sameShape operand).node)
  | .like negated subject pattern | .ilike negated subject pattern =>
      rw [exprSkeleton, built, built]
      exact .single (shape_operatorNode_congr (map_shape_some (built_sameShape subject).node)
        (built_sameShape pattern).node)
  | .inList negated subject items =>
      rw [exprSkeleton, built, built]
      refine .single (shape_operatorNode_congr (map_shape_some (built_sameShape subject).node) ?_)
      rw [shape, shape, shapeItems_exprNodes items]
  | .inSubquery negated subject query =>
      rw [exprSkeleton, built, built]
      exact .single (shape_negatedIf_congr negated (shape_subLink_congr _
        (map_shape_some (built_sameShape subject).node) (shape_queryNode query)))
  | .between negated subject low high =>
      rw [exprSkeleton, built, built]
      refine .single (shape_operatorNode_congr (map_shape_some (built_sameShape subject).node) ?_)
      simp only [shape, shapeItems, (built_sameShape low).node, (built_sameShape high).node]
  | .isNull inner | .isNotNull inner =>
      rw [exprSkeleton, built, built]
      exact .single (shape_nullTest_congr _ (built_sameShape inner).node)
  | .call name args =>
      rw [exprSkeleton, built, built, any_isStar_argsSkeleton]
      exact .single (shape_callNode_congr name _ (shapeItems_argNodes args))
  | .cast inner type =>
      rw [exprSkeleton, built, built]
      exact .single (shape_typeCast_congr (built_sameShape inner).node)
  | .subquery query =>
      rw [exprSkeleton, built, built]
      exact .single (shape_subLink_congr _ rfl (shape_queryNode query))
  | .exists negated query =>
      rw [exprSkeleton, built, built]
      exact .single (shape_negatedIf_congr negated
        (shape_subLink_congr _ rfl (shape_queryNode query)))

theorem shapeItems_exprNodes (items : List Expr) :
    shapeItems (exprNodes (exprsSkeleton items)) = shapeItems (exprNodes items) := by
  match items with
  | [] => rw [exprsSkeleton]
  | e :: rest =>
      rw [exprsSkeleton, exprNodes, exprNodes, shapeItems, shapeItems, (built_sameShape e).node,
        shapeItems_exprNodes rest]

theorem shape_optionNode (condition : Option Expr) :
    (optionNode (optionSkeleton condition)).map shape = (optionNode condition).map shape := by
  match condition with
  | none => rw [optionSkeleton]
  | some e =>
      rw [optionSkeleton, optionNode, optionNode]
      exact map_shape_some (built_sameShape e).node

theorem shapeItems_argNodes (args : List Arg) :
    shapeItems (argNodes (argsSkeleton args)) = shapeItems (argNodes args) := by
  match args with
  | [] => rw [argsSkeleton]
  | .positional value :: rest =>
      rw [argsSkeleton, argNodes, argNodes, shapeItems, shapeItems, (built_sameShape value).node,
        shapeItems_argNodes rest]
  | .named _ value :: rest =>
      rw [argsSkeleton, argNodes, argNodes, shapeItems, shapeItems, (built_sameShape value).node,
        shapeItems_argNodes rest]
  | .star :: rest | .qualifiedStar _ :: rest | .namedStar _ :: rest =>
      simp only [argsSkeleton, argNodes]
      exact shapeItems_argNodes rest

theorem shape_queryNode (q : Query) :
    (queryNode (querySkeleton q)).shape = (queryNode q).shape := by
  match q with
  | .plain body =>
      rw [querySkeleton, queryNode, queryNode]
      exact shape_setExprNode body
  | .withTables recursive tables body =>
      rw [querySkeleton, queryNode, queryNode, shape_attachTables, shape_attachTables,
        shapeItems_cteNodes tables, shape_setExprNode body]

theorem shape_optionQueryNode (source : Option Query) :
    (optionQueryNode (optionQuerySkeleton source)).map shape
      = (optionQueryNode source).map shape := by
  match source with
  | none => rw [optionQuerySkeleton]
  | some q =>
      rw [optionQuerySkeleton, optionQueryNode, optionQueryNode]
      exact map_shape_some (shape_queryNode q)

theorem shapeItems_cteNodes (tables : List Cte) :
    shapeItems (cteNodes (tablesSkeleton tables)) = shapeItems (cteNodes tables) := by
  match tables with
  | [] => rw [tablesSkeleton]
  | .mk name query :: rest =>
      rw [tablesSkeleton, cteNodes, cteNodes, shapeItems, shapeItems, shapeItems_cteNodes rest,
        shape_node, shape_node]
      simp only [shapeFields, shape, shape_queryNode query]

theorem shape_setExprNode (body : SetExpr) :
    (setExprNode (bodySkeleton body)).shape = (setExprNode body).shape := by
  match body with
  | .select items sources condition having =>
      rw [bodySkeleton, setExprNode, setExprNode]
      refine shape_node_congr _ ?_
      simp only [shapeFields_append, shapeFields_listField, shapeFields_optionalField,
        shapeItems_itemNodes items, shapeItems_fromNodes sources, shape_optionNode condition,
        shape_optionNode having]
  | .query inner =>
      rw [bodySkeleton, setExprNode, setExprNode]
      exact shape_queryNode inner
  | .combined op left right =>
      rw [bodySkeleton, setExprNode, setExprNode]
      refine shape_node_congr _ ?_
      simp only [shapeFields, shape_setExprNode left, shape_setExprNode right]
  | .values | .table | .directory => rw [bodySkeleton]
  | .insert source =>
      rw [bodySkeleton, setExprNode, setExprNode]
      exact shape_insertNode_congr (shape_optionQueryNode source)
  | .update target condition =>
      rw [bodySkeleton, setExprNode, setExprNode]
      exact shape_updateNode_congr (shape_factorNode? target) (shape_optionNode condition)

theorem shapeItems_itemNodes (items : List SelectItem) :
    shapeItems (itemNodes (itemsSkeleton items)) = shapeItems (itemNodes items) := by
  match items with
  | [] => rw [itemsSkeleton]
  | .plain value :: rest =>
      rw [itemsSkeleton, itemNodes, itemNodes, shapeItems, shapeItems, shapeItems_itemNodes rest]
      exact congrArg (· :: _) (shape_targetNode_congr none (built_sameShape value).node)
  | .aliased value label :: rest =>
      rw [itemsSkeleton, itemNodes, itemNodes, shapeItems, shapeItems, shapeItems_itemNodes rest]
      exact congrArg (· :: _) (shape_targetNode_congr (some label) (built_sameShape value).node)
  | .qualifiedStar parts :: rest =>
      rw [itemsSkeleton, itemNodes, itemNodes, shapeItems, shapeItems, shapeItems_itemNodes rest]
      exact congrArg (· :: _)
        (shape_targetNode_congr none (shape_columnFields_skeleton parts [starNode]))
  | .star :: rest =>
      rw [itemsSkeleton, itemNodes, itemNodes, shapeItems, shapeItems, shapeItems_itemNodes rest]

theorem shapeItems_fromNodes (sources : List FromItem) :
    shapeItems (fromNodes (sourcesSkeleton sources)) = shapeItems (fromNodes sources) := by
  match sources with
  | [] => rw [sourcesSkeleton]
  | item :: rest =>
      rw [sourcesSkeleton, fromNodes, fromNodes, shapeItems_append, shapeItems_append,
        shapeItems_fromNodes rest, shapeItems_toList, shapeItems_toList, shape_fromNode? item]

theorem shape_fromNode? (item : FromItem) :
    (fromNode? (sourceSkeleton item)).map shape = (fromNode? item).map shape := by
  match item with
  | .mk relation joins =>
      rw [sourceSkeleton, fromNode?, fromNode?]
      obtain ⟨hskeleton, hfirst⟩ | ⟨t, u, hskeleton, hfirst, hshape⟩ :=
        map_shape_cases (shape_factorNode? relation)
      · rw [hskeleton, hfirst]
      · rw [hskeleton, hfirst]
        exact map_shape_some (shape_joined hshape joins)

theorem shape_joined {left left' : Tree} (h : left.shape = left'.shape) (joins : List Join) :
    (joined left (joinsSkeleton joins)).shape = (joined left' joins).shape := by
  match joins with
  | [] =>
      rw [joinsSkeleton, joined, joined]
      exact h
  | .mk kind relation condition :: rest =>
      rw [joinsSkeleton, joined, joined]
      obtain ⟨hskeleton, hright⟩ | ⟨t, u, hskeleton, hright, hshape⟩ :=
        map_shape_cases (shape_factorNode? relation)
      · -- a relation without a node is passed over on both sides
        rw [hskeleton, hright]
        exact shape_joined h rest
      · rw [hskeleton, hright]
        exact shape_joined (shape_joinNode_congr kind h hshape (shape_optionNode condition)) rest

theorem shape_factorNode? (factor : TableFactor) :
    (factorNode? (factorSkeleton factor)).map shape = (factorNode? factor).map shape := by
  match factor with
  | .table name label =>
      rw [factorSkeleton, factorNode?, factorNode?]
      refine map_shape_some (shape_node_congr _ ?_)
      rw [shapeFields_append, shapeFields_append, shapeFields_rangeVar_skeleton,
        shapeFields_alias_skeleton]
  | .derived query label =>
      rw [factorSkeleton, factorNode?, factorNode?]
      refine map_shape_some (shape_node_congr _ ?_)
      rw [shapeFields_append, shapeFields_append, shapeFields_alias_skeleton]
      simp only [shapeFields, shape_queryNode query]
  | .nestedJoin item =>
      rw [factorSkeleton, factorNode?, factorNode?]
      exact shape_fromNode? item
  | .other => rw [factorSkeleton]

end

theorem shape_statementNode? (s : Statement) :
    (statementNode? s.skeleton).map shape = (statementNode? s).map shape := by
  induction s with
  | query q => exact map_shape_some (shape_queryNode q)
  | insert source => exact map_shape_some (shape_insertNode_congr (shape_optionQueryNode source))
  | update target condition =>
      exact map_shape_some
        (shape_updateNode_congr (shape_factorNode? target) (shape_optionNode condition))
  | delete condition =>
      refine map_shape_some (shape_node_congr _ ?_)
      rw [shapeFields_optionalField, shapeFields_optionalField, shape_optionNode]
  | explain inner ih =>
      rw [Statement.skeleton, statementNode?, statementNode?]
      obtain ⟨hskeleton, hinner⟩ | ⟨t, u, hskeleton, hinner, hshape⟩ := map_shape_cases ih
      · rw [hskeleton, hinner]
      · rw [hskeleton, hinner]
        refine map_shape_some (shape_node_congr _ ?_)
        simp only [shapeFields, hshape]
  | describe | other => rfl

theorem shapeItems_statementNodes (statements : List Statement) :
    shapeItems (((statements.map Statement.skeleton).filterMap statementNode?).map
        fun t => .object [("stmt", t)])
      = shapeItems ((statements.filterMap statementNode?).map fun t => .object [("stmt", t)]) := by
  induction statements with
  | nil => rfl
  | cons s rest ih =>
      rw [List.map_cons, List.filterMap_cons, List.filterMap_cons]
      obtain ⟨hskeleton, hs⟩ | ⟨t, u, hskeleton, hs, hshape⟩ :=
        map_shape_cases (shape_statementNode? s)
      · rw [hskeleton, hs]
        exact ih
      · rw [hskeleton, hs]
        simp only [List.map_cons, shapeItems, shape, shapeFields, hshape, ih]

theorem shape_ofStatements (statements : List Statement) :
    (ofStatements (statements.map Statement.skeleton)).shape = (ofStatements statements).shape := by
  rw [ofStatements, ofStatements]
  simp only [shape, shapeFields, shapeItems_statementNodes]

theorem walk_kinds_of_shape {t u : Tree} (h : t.shape = u.shape) (key : String) :
    (t.walk.map fun fields => (fields.object? key).isSome)
      = u.walk.map fun fields => (fields.object? key).isSome := by
  have hobjects : ∀ t : Tree, (t.walk.map fun fields => (fields.object? key).isSome)
      = t.shape.objects.map fun fields => (Fields.object? fields key).isSome := by
    intro t
    rw [Tree.walk_eq_objects, objects_shape, List.map_map]
    exact List.map_congr_left fun fields _ => (isSome_object?_shapeFields fields key).symm
  rw [hobjects t, hobjects u, h]

/-! ## Nodes that take a clause -/

/-- The labels of statements that can stand in the place of a query. -/
def ParseTree.statementLabels : List String :=
  ["SelectStmt", "InsertStmt", "UpdateStmt"]

/-- The clause that names queries. -/
def ParseTree.withClause (recursive : Bool) (tables : List Tree) : Tree :=
  .object [("ctes", .list tables), ("recursive", .bool recursive)]

/-- An object with one key, the label of a statement, and an object under it. -/
def ParseTree.IsStatementNode (t : Tree) : Prop :=
  ∃ kind ∈ statementLabels, ∃ fields, t = node kind fields

theorem ParseTree.IsStatementNode.intro {kind : String} (h : kind ∈ statementLabels)
    (fields : Fields) : IsStatementNode (node kind fields) :=
  ⟨kind, h, fields, rfl⟩

theorem Fields.get?_put_self (fields : Fields) (key : String) (t : Tree) :
    (fields.put key t).get? key = some t := by
  induction fields with
  | nil => rw [put, get?, if_pos rfl]
  | cons f rest ih =>
      obtain ⟨k, v⟩ := f
      rw [put]
      split
      · next hk => rw [get?, if_pos hk]
      · next hk => rw [get?, if_neg hk, ih]

theorem attachTables_node (recursive : Bool) (tables : List Tree) (kind : String)
    (fields : Fields) :
    attachTables recursive tables (node kind fields)
      = node kind (fields.put "withClause" (withClause recursive tables)) := rfl

mutual

theorem isStatementNode_setExprNode {body : SetExpr} (h : body.core ≠ .directory) :
    IsStatementNode (setExprNode body) := by
  match body with
  | .select .. | .combined .. | .values | .table =>
      rw [setExprNode]
      exact .intro (by decide) _
  | .insert source =>
      rw [setExprNode]
      exact .intro (show "InsertStmt" ∈ statementLabels by decide) _
  | .update target condition =>
      rw [setExprNode]
      exact .intro (show "UpdateStmt" ∈ statementLabels by decide) _
  | .query inner =>
      rw [SetExpr.core] at h
      rw [setExprNode]
      exact isStatementNode_queryNode h
  | .directory => exact absurd (by rw [SetExpr.core]) h

theorem isStatementNode_queryNode {q : Query} (h : q.core ≠ .directory) :
    IsStatementNode (queryNode q) := by
  match q with
  | .plain body =>
      rw [Query.core] at h
      rw [queryNode]
      exact isStatementNode_setExprNode h
  | .withTables recursive tables body =>
      rw [Query.core] at h
      obtain ⟨kind, hkind, fields, hnode⟩ := isStatementNode_setExprNode h
      rw [queryNode, hnode, attachTables_node]
      exact .intro hkind _

end

/-- A query that names others has its clause in the node of its statement. -/
theorem get?_withClause {recursive : Bool} {tables : List Cte} {body : SetExpr}
    (h : body.core ≠ .directory) :
    ∃ kind ∈ statementLabels, ∃ fields,
      queryNode (.withTables recursive tables body) = node kind fields ∧
        Fields.get? fields "withClause" = some (withClause recursive (cteNodes tables)) := by
  obtain ⟨kind, hkind, fields, hnode⟩ := isStatementNode_setExprNode h
  refine ⟨kind, hkind, _, ?_, Fields.get?_put_self fields _ _⟩
  rw [queryNode, hnode, attachTables_node]

/-- Statements that differ in their texts only have parse trees that differ in
their text leaves only, so a walk meets nodes of every kind at the same places.
And the tree of a query is the node of a statement, which takes the clause of
the query; an insertion into a directory, which is neither an `INSERT` nor an
`UPDATE` statement, is the one body that has no such node. -/
theorem texts_keep_shape :
    (∀ a b : List Statement, a.map Statement.skeleton = b.map Statement.skeleton →
      (ofStatements a).shape = (ofStatements b).shape ∧
        ∀ key, ((ofStatements a).walk.map fun fields => (fields.object? key).isSome)
          = (ofStatements b).walk.map fun fields => (fields.object? key).isSome) ∧
      ∀ q : Query, q.core ≠ .directory →
        IsStatementNode (queryNode q) ∧
          ∀ recursive tables body, q = .withTables recursive tables body →
            ∃ kind ∈ statementLabels, ∃ fields, queryNode q = node kind fields ∧
              Fields.get? fields "withClause" = some (withClause recursive (cteNodes tables)) := by
  constructor
  · intro a b h
    have hshape : (ofStatements a).shape = (ofStatements b).shape := by
      rw [← shape_ofStatements a, h, shape_ofStatements]
    exact ⟨hshape, walk_kinds_of_shape hshape⟩
  · intro q hq
    refine ⟨isStatementNode_queryNode hq, ?_⟩
    rintro recursive tables body rfl
    rw [Query.core] at hq
    exact get?_withClause hq

/-- `SELECT * FROM t WHERE column = 'text'`, with any column and text. -/
def Sql.filtered (column text : String) : Statement :=
  .query (.plain (.select [.star] [.mk (.table [⟨"t", false⟩] none) []]
    (some (.binary (.identifier ⟨column, false⟩) (.symbol "=") (.literal (.singleQuoted text))))
    none))

/-- `WITH a AS (VALUES ..) INSERT INTO t VALUES ..`. -/
def Sql.namedInsertion : Query :=
  .withTables false [.mk ⟨"a", false⟩ (.plain .values)] (.insert (some (.plain .values)))

/-- A text that looks like a comparison stays a text, and an insertion takes a
clause. -/
theorem texts_keep_shape_of_filtered :
    [filtered "name" "x"].map Statement.skeleton
        = [filtered "A_Expr" "' OR 1 = 1"].map Statement.skeleton ∧
      (ofStatements [filtered "name" "x"]).shape
        = (ofStatements [filtered "A_Expr" "' OR 1 = 1"]).shape ∧
      namedInsertion.core ≠ .directory ∧ IsStatementNode (queryNode namedInsertion) := by
  have hskeleton : [filtered "name" "x"].map Statement.skeleton
      = [filtered "A_Expr" "' OR 1 = 1"].map Statement.skeleton := rfl
  have hcore : namedInsertion.core ≠ .directory := by
    rw [namedInsertion, Query.core, SetExpr.core]
    exact SetExpr.noConfusion
  exact ⟨hskeleton, (texts_keep_shape.1 _ _ hskeleton).1, hcore,
    (texts_keep_shape.2 _ hcore).1⟩

end QueryAdvisor
