import QueryAdvisor.Sql.Statement

/-!
# What a statement mentions

The rules look for comparisons, and a reader of a parse tree for named queries.
This file lists both straight from the syntax of a statement, in the order in
which they are written, by one recursion that knows nothing of trees: an
operator that makes a comparison is mentioned before its operands, a named
query before what it holds.

Two things decide whether a mention can be seen in a parse tree. What has no
counterpart there is not mentioned at all: a relation that is neither a table
nor a query nor a join of those (and with it the item that starts with it, or
the condition that joins it), and an expression of a special form. The other
is where a `WITH` clause stands. A statement has room for one clause, and a
parenthesised query brings its own: in `WITH a AS (..) (WITH b AS (..) ..)`
both belong to the same statement, and the outer clause takes the place of the
inner one. The mentions of a clause that has lost its place are listed too,
but they are not shown.
-/

namespace QueryAdvisor.Sql

/-- What stands to the right of an operator. -/
inductive Operand where
  | single (value : Expr)
  | several (values : List Expr)

/-- An operator and what it is applied to. -/
structure Predicate where
  kind : String
  operator : String
  left : Option Expr
  right : Operand

/-- What is looked for in a statement. -/
inductive Construct where
  | predicate (predicate : Predicate)
  | table (name : Ident) (query : Query)

/-- A construct of a statement, and whether its parse tree shows it. -/
structure Mention where
  construct : Construct
  shown : Bool

namespace Mention

def ofPredicate (p : Predicate) : Mention :=
  ⟨.predicate p, true⟩

/-- The mention without its place in the tree. -/
def hide (m : Mention) : Mention :=
  { m with shown := false }

/-- The comparison that is mentioned. -/
def predicate? (m : Mention) : Option Predicate :=
  match m.construct with
  | .predicate p => some p
  | .table _ _ => none

/-- The named query that is mentioned. -/
def table? (m : Mention) : Option (Ident × Query) :=
  match m.construct with
  | .predicate _ => none
  | .table name query => some (name, query)

end Mention

/-- Whether the condition of a join is kept. -/
def JoinKind.hasCondition : JoinKind → Bool
  | .inner | .left | .right | .full => true
  | .other => false

mutual

/-- Whether a from item is kept: its first relation decides. -/
def FromItem.isKept : FromItem → Bool
  | .mk relation _ => relation.isKept

/-- Whether a relation is kept. -/
def TableFactor.isKept : TableFactor → Bool
  | .table _ _ => true
  | .derived _ _ => true
  | .nestedJoin item => item.isKept
  | .other => false

end

mutual

/-- The statement that a body stands for, out of its parentheses and without
the clauses in front of it. -/
def SetExpr.core : SetExpr → SetExpr
  | .query inner => inner.core
  | .select items sources condition having => .select items sources condition having
  | .combined op left right => .combined op left right
  | .values => .values
  | .table => .table
  | .insert source => .insert source
  | .update target condition => .update target condition
  | .directory => .directory

def Query.core : Query → SetExpr
  | .plain body => body.core
  | .withTables _ _ body => body.core

end

/-- Whether a body's statement has room for a clause; an insertion into a
directory has none. -/
def SetExpr.takesClause (body : SetExpr) : Bool :=
  match body.core with
  | .directory => false
  | _ => true

mutual

/-- The mentions of an expression. -/
def exprMentions : Expr → List Mention
  | .identifier _ | .compound _ | .literal _ | .special _ _ => []
  | .nested inner => exprMentions inner
  | .binary left op right =>
      match op with
      | .and | .or => exprMentions left ++ exprMentions right
      | .symbol s =>
          .ofPredicate ⟨"AEXPR_OP", s, some left, .single right⟩
            :: (exprMentions left ++ exprMentions right)
  | .unary op operand =>
      match op with
      | .not => exprMentions operand
      | .symbol s =>
          .ofPredicate ⟨"AEXPR_OP", s, none, .single operand⟩ :: exprMentions operand
  | .like negated subject pattern =>
      .ofPredicate ⟨"AEXPR_LIKE", if negated then "!~~" else "~~", some subject, .single pattern⟩
        :: (exprMentions subject ++ exprMentions pattern)
  | .ilike negated subject pattern =>
      .ofPredicate ⟨"AEXPR_ILIKE", if negated then "!~~*" else "~~*", some subject, .single pattern⟩
        :: (exprMentions subject ++ exprMentions pattern)
  | .inList negated subject items =>
      .ofPredicate ⟨"AEXPR_IN", if negated then "<>" else "=", some subject, .several items⟩
        :: (exprMentions subject ++ exprsMentions items)
  | .inSubquery _ subject query => exprMentions subject ++ queryMentions false query
  | .between negated subject low high =>
      .ofPredicate
          ⟨if negated then "AEXPR_NOT_BETWEEN" else "AEXPR_BETWEEN",
            if negated then "NOT BETWEEN" else "BETWEEN", some subject, .several [low, high]⟩
        :: (exprMentions subject ++ (exprMentions low ++ exprMentions high))
  | .isNull inner | .isNotNull inner => exprMentions inner
  | .call _ args => argMentions args
  | .cast inner _ => exprMentions inner
  | .subquery query => queryMentions false query
  | .exists _ query => queryMentions false query

def exprsMentions : List Expr → List Mention
  | [] => []
  | e :: rest => exprMentions e ++ exprsMentions rest

def optionMentions : Option Expr → List Mention
  | none => []
  | some e => exprMentions e

/-- The mentions of the arguments that are expressions. -/
def argMentions : List Arg → List Mention
  | [] => []
  | .positional value :: rest => exprMentions value ++ argMentions rest
  | .named _ value :: rest => exprMentions value ++ argMentions rest
  | _ :: rest => argMentions rest

/-- The mentions of a query: those of its body, then those of its clause.
`covered` says that another clause takes the place of the query's own. -/
def queryMentions (covered : Bool) : Query → List Mention
  | .plain body => bodyMentions covered body
  | .withTables _ tables body =>
      bodyMentions true body
        ++ (if covered || !body.takesClause then (tableMentions tables).map Mention.hide
            else tableMentions tables)

def optionQueryMentions : Option Query → List Mention
  | none => []
  | some q => queryMentions false q

/-- The mentions of named queries. -/
def tableMentions : List Cte → List Mention
  | [] => []
  | .mk name query :: rest =>
      ⟨.table name query, true⟩ :: (queryMentions false query ++ tableMentions rest)

/-- The mentions of the body of a query. -/
def bodyMentions (covered : Bool) : SetExpr → List Mention
  | .select items sources condition having =>
      itemMentions items ++ fromMentions sources ++ optionMentions condition
        ++ optionMentions having
  | .query inner => queryMentions covered inner
  | .combined _ left right => bodyMentions false left ++ bodyMentions false right
  | .values | .table | .directory => []
  | .insert source => optionQueryMentions source
  | .update target condition => factorMentions target ++ optionMentions condition

def itemMentions : List SelectItem → List Mention
  | [] => []
  | .plain value :: rest => exprMentions value ++ itemMentions rest
  | .aliased value _ :: rest => exprMentions value ++ itemMentions rest
  | .qualifiedStar _ :: rest => itemMentions rest
  | .star :: rest => itemMentions rest

def fromMentions : List FromItem → List Mention
  | [] => []
  | item :: rest => fromItemMentions item ++ fromMentions rest

/-- The mentions of a from item: its first relation, then its joins. -/
def fromItemMentions : FromItem → List Mention
  | .mk relation joins =>
      if relation.isKept then factorMentions relation ++ joinMentions joins else []

/-- The mentions of joins: the relation, then the condition. -/
def joinMentions : List Join → List Mention
  | [] => []
  | .mk kind relation condition :: rest =>
      (if relation.isKept then
          factorMentions relation
            ++ (if kind.hasCondition then optionMentions condition else [])
        else [])
        ++ joinMentions rest

def factorMentions : TableFactor → List Mention
  | .table _ _ => []
  | .derived query _ => queryMentions false query
  | .nestedJoin item => fromItemMentions item
  | .other => []

end

/-- The mentions of a statement. -/
def Statement.mentions : Statement → List Mention
  | .query q => queryMentions false q
  | .insert source => optionQueryMentions source
  | .update target condition => factorMentions target ++ optionMentions condition
  | .delete condition => optionMentions condition
  | .explain inner => inner.mentions
  | .describe | .other => []

/-- The comparisons of a statement that its parse tree shows. -/
def Statement.predicates (s : Statement) : List Predicate :=
  (s.mentions.filter Mention.shown).filterMap Mention.predicate?

/-- All named queries of a query, at any depth. -/
def Query.tables (q : Query) : List (Ident × Query) :=
  (queryMentions false q).filterMap Mention.table?

/-- The named queries of a query whose clause has a place. -/
def Query.shownTables (q : Query) : List (Ident × Query) :=
  ((queryMentions false q).filter Mention.shown).filterMap Mention.table?

end QueryAdvisor.Sql
