import QueryAdvisor.Proofs.Marked
import QueryAdvisor.Proofs.Mentions

/-!
# A parse tree shows what its statement mentions

The marked objects of the tree of a statement are the shown mentions of the
statement, one for one and in order. The proof is an induction over the syntax
that follows the builder: `Marked` says what each node passes on, so a case
only puts the parts together.

Two places need more than that. A chain of `AND` or `OR` is built from the
arguments that its operands contribute and not from their nodes, so the
statement about an expression speaks of all three. And a clause is attached to
a node that is already built, where it replaces a clause that is already
there; `attachTables_setExprNode` says that the clauses between the new one
and the statement make no difference, so that only nodes without a clause have
to be looked at.
-/

namespace QueryAdvisor

open ParseTree Sql QueryAdvisor.Tree

/-- The tree of what stands to the right of an operator. -/
def Sql.Operand.tree : Operand → Tree
  | .single value => exprNode value
  | .several values => .list (values.map exprNode)

/-- The object that shows a construct. -/
def Sql.Construct.fields : Construct → Fields
  | .predicate p =>
      [("A_Expr",
        .object (operatorFields p.kind p.operator (p.left.map exprNode) p.right.tree))]
  | .table name query =>
      [("CommonTableExpr",
        .object [("ctename", .text name.name), ("ctequery", queryNode query)])]

/-- The objects that show what is shown of some mentions. -/
def shownFields (mentions : List Mention) : List Fields :=
  (mentions.filter Mention.shown).map fun m => m.construct.fields

@[simp] theorem shownFields_nil : shownFields [] = [] := rfl

@[simp] theorem shownFields_append (a b : List Mention) :
    shownFields (a ++ b) = shownFields a ++ shownFields b := by
  rw [shownFields, List.filter_append, List.map_append, ← shownFields, ← shownFields]

@[simp] theorem shownFields_ofPredicate (p : Predicate) (rest : List Mention) :
    shownFields (.ofPredicate p :: rest) = (Construct.predicate p).fields :: shownFields rest := by
  rw [shownFields, List.filter_cons_of_pos rfl, List.map_cons, ← shownFields]; rfl

@[simp] theorem shownFields_table (name : Ident) (query : Query) (rest : List Mention) :
    shownFields (⟨.table name query, true⟩ :: rest)
      = (Construct.table name query).fields :: shownFields rest := by
  rw [shownFields, List.filter_cons_of_pos rfl, List.map_cons, ← shownFields]

/-- Nothing is shown of a clause that has lost its place. -/
@[simp] theorem shownFields_hide (mentions : List Mention) :
    shownFields (mentions.map Mention.hide) = [] := by
  have hnone : (mentions.map Mention.hide).filter Mention.shown = [] := by
    rw [List.filter_eq_nil_iff]
    intro m hm
    obtain ⟨m', -, rfl⟩ := List.mem_map.mp hm
    simp [Mention.hide]
  rw [shownFields, hnone, List.map_nil]

theorem exprNodes_eq_map (items : List Expr) : exprNodes items = items.map exprNode := by
  induction items with
  | nil => rw [exprNodes, List.map_nil]
  | cons e rest ih => rw [exprNodes, List.map_cons, ih, exprNode]

/-! ## Where a clause goes -/

/-- The second value put under a key is the one that stays. -/
theorem Fields.put_put (fields : Fields) (key : String) (a b : Tree) :
    (fields.put key a).put key b = fields.put key b := by
  induction fields with
  | nil => rw [put, put, put, if_pos rfl]
  | cons f rest ih =>
      obtain ⟨k, v⟩ := f
      rw [put, put]
      split
      · next hk => rw [put, if_pos hk]
      · next hk => rw [put, if_neg hk, ih]

/-- A new key comes last. -/
theorem Fields.put_of_get?_eq_none {fields : Fields} {key : String}
    (h : fields.get? key = none) (t : Tree) : fields.put key t = fields ++ [(key, t)] := by
  induction fields with
  | nil => rw [put, List.nil_append]
  | cons f rest ih =>
      obtain ⟨k, v⟩ := f
      rw [get?] at h
      split at h
      · cases h
      · next hk => rw [put, if_neg hk, ih h, List.cons_append]

theorem attachTables_attachTables (r r' : Bool) (ts ts' : List Tree) (t : Tree) :
    attachTables r ts (attachTables r' ts' t) = attachTables r ts t := by
  fun_cases attachTables r' ts' t with
  | case1 kind fields rest clause => rw [attachTables, attachTables, Fields.put_put]
  | case2 => rfl

mutual

/-- Attaching a clause undoes every clause between it and the statement. -/
theorem attachTables_setExprNode (r : Bool) (ts : List Tree) (body : SetExpr) :
    attachTables r ts (setExprNode body) = attachTables r ts (setExprNode body.core) := by
  match body with
  | .query inner =>
      rw [setExprNode, SetExpr.core]
      exact attachTables_queryNode r ts inner
  | .select .. | .combined .. | .values | .table | .insert _ | .update .. | .directory =>
      rw [SetExpr.core]

theorem attachTables_queryNode (r : Bool) (ts : List Tree) (q : Query) :
    attachTables r ts (queryNode q) = attachTables r ts (setExprNode q.core) := by
  match q with
  | .plain body =>
      rw [queryNode, Query.core]
      exact attachTables_setExprNode r ts body
  | .withTables _ _ body =>
      rw [queryNode, Query.core, attachTables_attachTables]
      exact attachTables_setExprNode r ts body

end

/-- A statement that can take a clause and has none: the clause then comes
last, and nothing around it is marked. -/
def IsBare (t : Tree) : Prop :=
  ∃ kind fields, t = node kind fields ∧ isLabel kind = false ∧
    Fields.isMarked fields = false ∧ Fields.get? fields "withClause" = none

theorem IsBare.intro {kind : String} {fields : Fields} (hk : isLabel kind = false)
    (hf : Fields.isMarked fields = false) (hw : Fields.get? fields "withClause" = none) :
    IsBare (node kind fields) :=
  ⟨kind, fields, rfl, hk, hf, hw⟩

theorem marked_attachTables {t : Tree} (h : IsBare t) (r : Bool) (ts : List Tree) :
    (attachTables r ts t).marked = t.marked ++ markedItems ts := by
  obtain ⟨kind, fields, rfl, hk, hf, hw⟩ := h
  have hput : attachTables r ts (node kind fields)
      = node kind (fields ++ [("withClause",
          .object [("ctes", .list ts), ("recursive", .bool r)])]) := by
    rw [node, attachTables, Fields.put_of_get?_eq_none hw, node]
  have hf' : Fields.isMarked (fields ++ [("withClause",
      .object [("ctes", .list ts), ("recursive", .bool r)])]) = false := by
    rw [Fields.isMarked_append, hf]; rfl
  rw [hput, marked_node hk hf', marked_node hk hf, markedFields_append, markedFields_cons,
    marked_object rfl]
  simp only [markedFields_cons, marked_list, marked_bool, markedFields_nil, List.append_nil]

theorem Fields.get?_append_eq_none {a b : Fields} {key : String} (ha : a.get? key = none)
    (hb : b.get? key = none) : Fields.get? (a ++ b) key = none := by
  induction a with
  | nil => rw [List.nil_append, hb]
  | cons f rest ih =>
      obtain ⟨k, v⟩ := f
      rw [get?] at ha
      split at ha
      · cases ha
      · next hk => rw [List.cons_append, get?, if_neg hk, ih ha]

theorem get?_optionalField_of_ne {k key : String} (h : k ≠ key) (t : Option Tree) :
    Fields.get? (optionalField k t) key = none := by
  cases t with
  | none => rfl
  | some t => rw [optionalField, Fields.get?, if_neg h, Fields.get?]

theorem get?_listField_of_ne {k key : String} (h : k ≠ key) (items : List Tree) :
    Fields.get? (listField k items) key = none := by
  rw [listField]
  split
  · rfl
  · rw [Fields.get?, if_neg h, Fields.get?]

/-- Every node of a statement is bare before a clause is attached to it. -/
theorem isBare_select (items sources : List Tree) (condition having : Option Tree) :
    IsBare (node "SelectStmt"
      (listField "targetList" items ++ listField "fromClause" sources
        ++ optionalField "whereClause" condition ++ optionalField "havingClause" having)) := by
  refine .intro rfl (isMarked_selectFields ..) ?_
  refine Fields.get?_append_eq_none (Fields.get?_append_eq_none
    (Fields.get?_append_eq_none ?_ ?_) ?_) ?_
  · exact get?_listField_of_ne (by decide) _
  · exact get?_listField_of_ne (by decide) _
  · exact get?_optionalField_of_ne (by decide) _
  · exact get?_optionalField_of_ne (by decide) _

theorem isBare_insertNode (source : Option Tree) : IsBare (insertNode source) :=
  .intro rfl (isMarked_optionalField rfl _) (get?_optionalField_of_ne (by decide) _)

theorem isBare_updateNode (target condition : Option Tree) :
    IsBare (updateNode target condition) := by
  refine .intro rfl (isMarked_updateFields ..) ?_
  exact Fields.get?_append_eq_none (get?_optionalField_of_ne (by decide) _)
    (get?_optionalField_of_ne (by decide) _)

/-- A statement out of its parentheses has a node with room for a clause, or
it is an insertion into a directory. -/
theorem isBare_or_directory {body : SetExpr} (h : ∀ inner, body ≠ .query inner) :
    IsBare (setExprNode body) ∨ body = .directory := by
  cases body with
  | select items sources condition having =>
      rw [setExprNode]
      exact .inl (isBare_select _ _ _ _)
  | query inner => exact absurd rfl (h inner)
  | combined op left right =>
      rw [setExprNode]
      exact .inl (.intro rfl rfl rfl)
  | values | table =>
      rw [setExprNode]
      exact .inl (.intro rfl rfl rfl)
  | insert source =>
      rw [setExprNode]
      exact .inl (isBare_insertNode _)
  | update target condition =>
      rw [setExprNode]
      exact .inl (isBare_updateNode _ _)
  | directory => exact .inr rfl

mutual

theorem core_ne_query (body : SetExpr) (inner : Query) : body.core ≠ .query inner := by
  match body with
  | .query q =>
      rw [SetExpr.core]
      exact queryCore_ne_query q inner
  | .select .. | .combined .. | .values | .table | .insert _ | .update .. | .directory =>
      rw [SetExpr.core]
      exact SetExpr.noConfusion

theorem queryCore_ne_query (q : Query) (inner : Query) : q.core ≠ .query inner := by
  match q with
  | .plain body =>
      rw [Query.core]
      exact core_ne_query body inner
  | .withTables _ _ body =>
      rw [Query.core]
      exact core_ne_query body inner

end

theorem isBare_core {body : SetExpr} (h : body.takesClause = true) :
    IsBare (setExprNode body.core) := by
  rcases isBare_or_directory (core_ne_query body) with hbare | hdir
  · exact hbare
  · rw [SetExpr.takesClause, hdir] at h
    exact absurd h (by simp)

theorem core_eq_directory {body : SetExpr} (h : body.takesClause = false) :
    body.core = .directory := by
  rw [SetExpr.takesClause] at h
  split at h
  · assumption
  · exact absurd h (by simp)

/-! ## The induction over the syntax -/

/-- All that is built of an expression shows the same objects: its node, and
what it contributes to a chain of either operator. -/
structure ParseTree.Built.Shows (b : Built) (l : List Fields) : Prop where
  node : b.node.marked = l
  conjuncts : markedItems b.conjuncts = l
  disjuncts : markedItems b.disjuncts = l

theorem ParseTree.Built.Shows.single {t : Tree} {l : List Fields} (h : t.marked = l) :
    (Built.single t).Shows l := by
  have hitems : markedItems [t] = l := by
    rw [markedItems_cons, markedItems_nil, List.append_nil, h]
  exact ⟨h, hitems, hitems⟩

mutual

theorem isSome_fromNode? (item : FromItem) : (fromNode? item).isSome = item.isKept := by
  match item with
  | .mk relation joins =>
      rw [fromNode?, FromItem.isKept, ← isSome_factorNode? relation]
      cases factorNode? relation <;> rfl

theorem isSome_factorNode? (factor : TableFactor) :
    (factorNode? factor).isSome = factor.isKept := by
  match factor with
  | .table _ _ | .derived _ _ | .other => rw [factorNode?, TableFactor.isKept]; rfl
  | .nestedJoin item =>
      rw [factorNode?, TableFactor.isKept]
      exact isSome_fromNode? item

end

/-- An operator shows itself and then what its operands show. -/
theorem marked_operator (p : Predicate) {l r : List Mention}
    (hl : markedItems (p.left.map exprNode).toList = shownFields l)
    (hr : p.right.tree.marked = shownFields r) :
    (operatorNode p.kind p.operator (p.left.map exprNode) p.right.tree).marked
      = shownFields (.ofPredicate p :: (l ++ r)) := by
  rw [marked_operatorNode, shownFields_ofPredicate, shownFields_append, hl, hr]
  rfl

theorem markedItems_some {t : Tree} {l : List Fields} (h : t.marked = l) :
    markedItems (some t).toList = l := by
  rw [Option.toList_some, markedItems_cons, markedItems_nil, List.append_nil, h]

/-- A condition is shown where it is kept. -/
theorem markedItems_condition (kind : JoinKind) {condition : Option Tree} {l : List Mention}
    (h : markedItems condition.toList = shownFields l) :
    markedItems (if keepsCondition kind then condition else none).toList
      = shownFields (if kind.hasCondition then l else []) := by
  cases kind with
  | inner | left | right | full => exact h
  | other => rfl

mutual

theorem built_shows (e : Expr) : (built e).Shows (shownFields (exprMentions e)) := by
  match e with
  | .identifier _ | .compound _ =>
      rw [built, exprMentions]
      exact .single (marked_columnRef _)
  | .literal value =>
      rw [built, exprMentions]
      exact .single (marked_literalNode value)
  | .special _ _ =>
      rw [built, exprMentions]
      exact .single marked_null
  | .nested inner =>
      rw [built, exprMentions]
      exact .single (built_shows inner).node
  | .binary left .and right =>
      have hargs : markedItems ((built left).conjuncts ++ (built right).conjuncts)
          = shownFields (exprMentions left ++ exprMentions right) := by
        rw [markedItems_append, (built_shows left).conjuncts, (built_shows right).conjuncts,
          shownFields_append]
      have hnode := (marked_boolExpr "AND_EXPR" _).trans hargs
      rw [built, exprMentions]
      exact ⟨hnode, hargs, (Built.Shows.single hnode).disjuncts⟩
  | .binary left .or right =>
      have hargs : markedItems ((built left).disjuncts ++ (built right).disjuncts)
          = shownFields (exprMentions left ++ exprMentions right) := by
        rw [markedItems_append, (built_shows left).disjuncts, (built_shows right).disjuncts,
          shownFields_append]
      have hnode := (marked_boolExpr "OR_EXPR" _).trans hargs
      rw [built, exprMentions]
      exact ⟨hnode, (Built.Shows.single hnode).conjuncts, hargs⟩
  | .binary left (.symbol s) right =>
      rw [built, exprMentions]
      exact .single (marked_operator ⟨_, _, some left, .single right⟩
        (markedItems_some (built_shows left).node) (built_shows right).node)
  | .unary .not operand =>
      rw [built, exprMentions]
      exact .single ((marked_boolExpr _ _).trans (markedItems_some (built_shows operand).node))
  | .unary (.symbol s) operand =>
      rw [built, exprMentions]
      exact .single (marked_operator ⟨_, _, none, .single operand⟩ (l := []) rfl
        (built_shows operand).node)
  | .like negated subject pattern =>
      rw [built, exprMentions]
      exact .single (marked_operator ⟨_, _, some subject, .single pattern⟩
        (markedItems_some (built_shows subject).node) (built_shows pattern).node)
  | .ilike negated subject pattern =>
      rw [built, exprMentions]
      exact .single (marked_operator ⟨_, _, some subject, .single pattern⟩
        (markedItems_some (built_shows subject).node) (built_shows pattern).node)
  | .inList negated subject items =>
      have hitems := markedItems_exprNodes items
      rw [exprNodes_eq_map, ← marked_list] at hitems
      rw [built, exprMentions, exprNodes_eq_map]
      exact .single (marked_operator ⟨_, _, some subject, .several items⟩
        (markedItems_some (built_shows subject).node) hitems)
  | .inSubquery negated subject query =>
      rw [built, exprMentions]
      refine .single ?_
      rw [marked_negatedIf, marked_subLink, shownFields_append,
        markedItems_some (built_shows subject).node, (marked_queryNode query).1]
  | .between negated subject low high =>
      have hbounds : (Tree.list [exprNode low, exprNode high]).marked
          = shownFields (exprMentions low ++ exprMentions high) := by
        rw [marked_list, markedItems_cons, markedItems_cons, markedItems_nil, List.append_nil,
          shownFields_append, ← (built_shows low).node, ← (built_shows high).node]
        rfl
      rw [built, exprMentions]
      exact .single (marked_operator ⟨_, _, some subject, .several [low, high]⟩
        (markedItems_some (built_shows subject).node) hbounds)
  | .isNull inner | .isNotNull inner =>
      rw [built, exprMentions]
      exact .single ((marked_nullTest _ _).trans (built_shows inner).node)
  | .call name args =>
      rw [built, exprMentions]
      exact .single ((marked_callNode _ _ _).trans (markedItems_argNodes args))
  | .cast inner type =>
      rw [built, exprMentions]
      exact .single ((marked_typeCast _ _).trans (built_shows inner).node)
  | .subquery query =>
      rw [built, exprMentions]
      exact .single ((marked_subLink _ none _).trans (marked_queryNode query).1)
  | .exists negated query =>
      rw [built, exprMentions]
      refine .single ((marked_negatedIf _ _).trans ?_)
      exact (marked_subLink _ none _).trans (marked_queryNode query).1

theorem markedItems_exprNodes (items : List Expr) :
    markedItems (exprNodes items) = shownFields (exprsMentions items) := by
  match items with
  | [] => rw [exprNodes, exprsMentions]; rfl
  | e :: rest =>
      rw [exprNodes, exprsMentions, markedItems_cons, shownFields_append, (built_shows e).node,
        markedItems_exprNodes rest]

theorem markedItems_optionNode (condition : Option Expr) :
    markedItems (optionNode condition).toList = shownFields (optionMentions condition) := by
  match condition with
  | none => rw [optionNode, optionMentions]; rfl
  | some e =>
      rw [optionNode, optionMentions]
      exact markedItems_some (built_shows e).node

theorem markedItems_argNodes (args : List Arg) :
    markedItems (argNodes args) = shownFields (argMentions args) := by
  match args with
  | [] => rw [argNodes, argMentions]; rfl
  | .positional value :: rest =>
      rw [argNodes, argMentions, markedItems_cons, shownFields_append, (built_shows value).node,
        markedItems_argNodes rest]
  | .named _ value :: rest =>
      rw [argNodes, argMentions, markedItems_cons, shownFields_append, (built_shows value).node,
        markedItems_argNodes rest]
  | .star :: rest | .qualifiedStar _ :: rest | .namedStar _ :: rest =>
      simp only [argNodes, argMentions]
      exact markedItems_argNodes rest

/-- The node of a query as it stands alone, and its statement's node under
another clause. -/
theorem marked_queryNode (q : Query) :
    (queryNode q).marked = shownFields (queryMentions false q) ∧
      (setExprNode q.core).marked = shownFields (queryMentions true q) := by
  match q with
  | .plain body =>
      rw [queryNode, queryMentions, queryMentions, Query.core]
      exact marked_setExprNode body
  | .withTables recursive tables body =>
      have hcore := (marked_setExprNode body).2
      refine ⟨?_, ?_⟩
      · rw [queryNode, queryMentions, attachTables_setExprNode, shownFields_append,
          Bool.false_or, ← hcore]
        cases hroom : body.takesClause with
        | true =>
            rw [marked_attachTables (isBare_core hroom), markedItems_cteNodes tables]
            rfl
        | false =>
            -- a directory: there is no node to attach the clause to
            rw [core_eq_directory hroom, Bool.not_false, if_pos rfl, shownFields_hide,
              setExprNode]
            rfl
      · rw [Query.core, queryMentions, Bool.true_or, if_pos rfl, shownFields_append,
          shownFields_hide, List.append_nil, hcore]

theorem markedItems_optionQueryNode (source : Option Query) :
    markedItems (optionQueryNode source).toList = shownFields (optionQueryMentions source) := by
  match source with
  | none => rw [optionQueryNode, optionQueryMentions]; rfl
  | some q =>
      rw [optionQueryNode, optionQueryMentions]
      exact markedItems_some (marked_queryNode q).1

theorem markedItems_cteNodes (tables : List Cte) :
    markedItems (cteNodes tables) = shownFields (tableMentions tables) := by
  match tables with
  | [] => rw [cteNodes, tableMentions]; rfl
  | .mk name query :: rest =>
      rw [cteNodes, tableMentions, markedItems_cons, shownFields_table, shownFields_append,
        marked_node_of_isLabel rfl rfl, markedFields_cons, markedFields_cons, marked_text,
        markedFields_nil, List.append_nil, List.nil_append, (marked_queryNode query).1,
        markedItems_cteNodes rest]
      rfl

/-- The node of a body as it stands alone, and its statement's node under
another clause. -/
theorem marked_setExprNode (body : SetExpr) :
    (setExprNode body).marked = shownFields (bodyMentions false body) ∧
      (setExprNode body.core).marked = shownFields (bodyMentions true body) := by
  match body with
  | .query inner =>
      rw [setExprNode, SetExpr.core, bodyMentions, bodyMentions]
      exact marked_queryNode inner
  | .select items sources condition having =>
      have h : (setExprNode (.select items sources condition having)).marked
          = shownFields (itemMentions items ++ fromMentions sources ++ optionMentions condition
              ++ optionMentions having) := by
        rw [setExprNode, marked_select, shownFields_append, shownFields_append,
          shownFields_append, markedItems_itemNodes items, markedItems_fromNodes sources,
          markedItems_optionNode condition, markedItems_optionNode having]
      rw [SetExpr.core, bodyMentions, bodyMentions]
      exact ⟨h, h⟩
  | .combined op left right =>
      have h : (setExprNode (.combined op left right)).marked
          = shownFields (bodyMentions false left ++ bodyMentions false right) := by
        rw [setExprNode, marked_node rfl rfl, shownFields_append, markedFields_cons,
          markedFields_cons, markedFields_cons, markedFields_nil, marked_text, List.nil_append,
          List.append_nil, (marked_setExprNode left).1, (marked_setExprNode right).1]
      rw [SetExpr.core, bodyMentions, bodyMentions]
      exact ⟨h, h⟩
  | .values | .table | .directory =>
      rw [SetExpr.core, bodyMentions, bodyMentions, setExprNode]
      exact ⟨rfl, rfl⟩
  | .insert source =>
      have h : (setExprNode (.insert source)).marked
          = shownFields (optionQueryMentions source) := by
        rw [setExprNode, marked_insertNode, markedItems_optionQueryNode source]
      rw [SetExpr.core, bodyMentions, bodyMentions]
      exact ⟨h, h⟩
  | .update target condition =>
      have h : (setExprNode (.update target condition)).marked
          = shownFields (factorMentions target ++ optionMentions condition) := by
        rw [setExprNode, marked_updateNode, shownFields_append, markedItems_factorNode? target,
          markedItems_optionNode condition]
      rw [SetExpr.core, bodyMentions, bodyMentions]
      exact ⟨h, h⟩

theorem markedItems_itemNodes (items : List SelectItem) :
    markedItems (itemNodes items) = shownFields (itemMentions items) := by
  match items with
  | [] => rw [itemNodes, itemMentions]; rfl
  | .plain value :: rest =>
      rw [itemNodes, itemMentions, markedItems_cons, shownFields_append, marked_targetNode,
        (built_shows value).node, markedItems_itemNodes rest]
  | .aliased value _ :: rest =>
      rw [itemNodes, itemMentions, markedItems_cons, shownFields_append, marked_targetNode,
        (built_shows value).node, markedItems_itemNodes rest]
  | .qualifiedStar parts :: rest =>
      rw [itemNodes, itemMentions, markedItems_cons, marked_targetNode, marked_starRef,
        List.nil_append, markedItems_itemNodes rest]
  | .star :: rest =>
      rw [itemNodes, itemMentions, markedItems_cons, marked_targetNode,
        show (node "ColumnRef" [("fields", .list [starNode])]).marked = [] from marked_starRef [],
        List.nil_append, markedItems_itemNodes rest]

theorem markedItems_fromNodes (sources : List FromItem) :
    markedItems (fromNodes sources) = shownFields (fromMentions sources) := by
  match sources with
  | [] => rw [fromNodes, fromMentions]; rfl
  | item :: rest =>
      rw [fromNodes, fromMentions, markedItems_append, shownFields_append,
        markedItems_fromNode? item, markedItems_fromNodes rest]

theorem markedItems_fromNode? (item : FromItem) :
    markedItems (fromNode? item).toList = shownFields (fromItemMentions item) := by
  match item with
  | .mk relation joins =>
      have hfirst := markedItems_factorNode? relation
      rw [fromNode?, fromItemMentions, ← isSome_factorNode? relation]
      cases hnode : factorNode? relation with
      | none => rfl
      | some t =>
          rw [hnode] at hfirst
          rw [Option.isSome_some, if_pos rfl, shownFields_append, ← hfirst]
          refine markedItems_some ?_
          rw [marked_joined t joins, markedItems_some rfl]

/-- Joins come behind what they are joined to. -/
theorem marked_joined (left : Tree) (joins : List Join) :
    (joined left joins).marked = left.marked ++ shownFields (joinMentions joins) := by
  match joins with
  | [] => rw [joined, joinMentions, shownFields_nil, List.append_nil]
  | .mk kind relation condition :: rest =>
      have hright := markedItems_factorNode? relation
      rw [joined, joinMentions, ← isSome_factorNode? relation]
      cases hnode : factorNode? relation with
      | none => exact marked_joined left rest
      | some right =>
          rw [hnode, markedItems_some rfl] at hright
          rw [Option.isSome_some, if_pos rfl, shownFields_append, shownFields_append]
          dsimp only
          rw [marked_joined _ rest, marked_joinNode, hright, markedItems_condition kind
            (markedItems_optionNode condition)]
          simp only [List.append_assoc]

theorem markedItems_factorNode? (factor : TableFactor) :
    markedItems (factorNode? factor).toList = shownFields (factorMentions factor) := by
  match factor with
  | .table name label =>
      rw [factorNode?, factorMentions]
      exact markedItems_some (marked_rangeVar name label)
  | .derived query label =>
      rw [factorNode?, factorMentions]
      exact markedItems_some ((marked_rangeSubselect _ label).trans (marked_queryNode query).1)
  | .nestedJoin item =>
      rw [factorNode?, factorMentions]
      exact markedItems_fromNode? item
  | .other => rw [factorNode?, factorMentions]; rfl

end

theorem markedItems_statementNode? (s : Statement) :
    markedItems (statementNode? s).toList = shownFields s.mentions := by
  induction s with
  | query q =>
      rw [statementNode?, Statement.mentions]
      exact markedItems_some (marked_queryNode q).1
  | insert source =>
      rw [statementNode?, Statement.mentions]
      exact markedItems_some ((marked_insertNode _).trans (markedItems_optionQueryNode source))
  | update target condition =>
      rw [statementNode?, Statement.mentions, shownFields_append,
        ← markedItems_factorNode? target, ← markedItems_optionNode condition]
      exact markedItems_some (marked_updateNode _ _)
  | delete condition =>
      rw [statementNode?, Statement.mentions, ← markedItems_optionNode condition]
      refine markedItems_some ?_
      rw [marked_node rfl (isMarked_optionalField rfl _), markedFields_optionalField]
  | explain inner ih =>
      rw [statementNode?, Statement.mentions, ← ih]
      cases statementNode? inner with
      | none => rfl
      | some t =>
          refine markedItems_some ?_
          rw [marked_node rfl rfl, markedFields_cons, markedFields_nil, List.append_nil,
            markedItems_some rfl]
  | describe | other => rfl

theorem markedItems_statementNodes (statements : List Statement) :
    markedItems ((statements.filterMap statementNode?).map fun t => .object [("stmt", t)])
      = shownFields (statements.flatMap Statement.mentions) := by
  induction statements with
  | nil => rfl
  | cons s rest ih =>
      have hs := markedItems_statementNode? s
      rw [List.flatMap_cons, shownFields_append, ← ih, ← hs, List.filterMap_cons]
      cases statementNode? s with
      | none => rfl
      | some t =>
          rw [markedItems_some rfl, List.map_cons, markedItems_cons, marked_object rfl,
            markedFields_cons, markedFields_nil, List.append_nil]

/-- The marked objects of a parse tree are what its statements mention and
show. -/
theorem marked_ofStatements (statements : List Statement) :
    (ofStatements statements).marked = shownFields (statements.flatMap Statement.mentions) := by
  rw [ofStatements, marked_object rfl, markedFields_cons, markedFields_cons, marked_nat,
    marked_list, markedItems_statementNodes, markedFields_nil, List.append_nil, List.nil_append]

end QueryAdvisor
