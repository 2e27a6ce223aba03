import QueryAdvisor.Number.Power
import QueryAdvisor.Sql.Statement
import QueryAdvisor.Text.Letter
import QueryAdvisor.Tree.Basic

/-!
# Parse trees of statements

A statement is shown as a tree of nodes, each an object with one key, the name
of its construct. What has no node is left out, or null where an expression
has to stand.

A chain of the same boolean operator is one node: `a AND b AND c` has three
arguments. So an expression is built together with the arguments it
contributes to a chain around it.
-/

namespace QueryAdvisor.ParseTree

open Sql

/-- An object with one key. -/
def node (kind : String) (fields : Fields) : Tree :=
  .object [(kind, .object fields)]

/-- A segment of a name. -/
def segment (s : String) : Tree :=
  node "String" [("sval", .text s)]

def identSegment (i : Ident) : Tree :=
  segment i.name

def columnRef (parts : List Ident) : Tree :=
  node "ColumnRef" [("fields", .list (parts.map identSegment))]

/-- Stands for all columns. -/
def starNode : Tree :=
  node "A_Star" []

def boolExpr (op : String) (args : List Tree) : Tree :=
  node "BoolExpr" [("boolop", .text op), ("args", .list args)]

/-- A field that may be absent. -/
def optionalField (key : String) : Option Tree → Fields
  | none => []
  | some t => [(key, t)]

/-- An operator applied to its operands. -/
def operatorNode (kind name : String) (left : Option Tree) (right : Tree) : Tree :=
  node "A_Expr"
    ([("kind", .text kind), ("name", .list [segment name])] ++ optionalField "lexpr" left
      ++ [("rexpr", right)])

def nullTest (inner : Tree) (test : String) : Tree :=
  node "NullTest" [("arg", inner), ("nulltesttype", .text test)]

def typeCast (inner : Tree) (type : String) : Tree :=
  node "TypeCast"
    [("arg", inner), ("typeName", .object [("names", .list [segment (Text.lowered type)])])]

/-- A query inside an expression. -/
def subLink (kind : String) (test : Option Tree) (query : Tree) : Tree :=
  node "SubLink"
    ([("subLinkType", .text kind)] ++ optionalField "testexpr" test ++ [("subselect", query)])

/-- A node, or its negation. -/
def negatedIf (negated : Bool) (t : Tree) : Tree :=
  if negated then boolExpr "NOT_EXPR" [t] else t

def constNode (fields : Fields) : Tree :=
  node "A_Const" fields

def textConst (s : String) : Tree :=
  constNode [("sval", .object [("sval", .text s)])]

/-- A number that fits in 64 bits with its sign is an integer; any other keeps
its text. -/
def numberConst (digits : String) : Tree :=
  match Text.natural? digits.toList with
  | some n =>
      if n < twoTo 63 then constNode [("ival", .object [("ival", .nat n)])]
      else constNode [("fval", .object [("fval", .text digits)])]
  | none => constNode [("fval", .object [("fval", .text digits)])]

/-- The number of a placeholder such as `$1`; one without a number counts as
zero. -/
def placeholderNumber (s : String) : Nat :=
  match Text.natural? (s.toList.dropWhile (· == '$')) with
  | some n => if n < twoTo 32 then n else 0
  | none => 0

def literalNode : Literal → Tree
  | .number digits => numberConst digits
  | .singleQuoted s | .escaped s | .national s | .dollarQuoted s => textConst s
  | .unicode _ | .hex _ => constNode []
  | .bool b => constNode [("boolval", .object [("boolval", .bool b)])]
  | .null => constNode [("isnull", .bool true)]
  | .placeholder s => node "ParamRef" [("number", .nat (placeholderNumber s))]

/-- A call with the arguments that have a node. -/
def callNode (name : List Ident) (star : Bool) (args : List Tree) : Tree :=
  node "FuncCall"
    ([("funcname", .list (name.map identSegment))]
      ++ (if star then [("agg_star", .bool true)] else [])
      ++ (if args.isEmpty then [] else [("args", .list args)]))

/-- Whether an argument is a bare star. -/
def isStar : Arg → Bool
  | .star => true
  | _ => false

/-- A relation's name behind that of its schema, if there is one. -/
def rangeVarFields (name : List Ident) : Fields :=
  match name.reverse with
  | [] => [("inh", .bool true)]
  | [relation] => [("relname", .text relation.name), ("inh", .bool true)]
  | relation :: schema :: _ =>
      [("relname", .text relation.name), ("schemaname", .text schema.name), ("inh", .bool true)]

def aliasFields : Option Ident → Fields
  | none => []
  | some name => [("alias", .object [("aliasname", .text name.name)])]

def joinType : JoinKind → String
  | .inner | .other => "JOIN_INNER"
  | .left => "JOIN_LEFT"
  | .right => "JOIN_RIGHT"
  | .full => "JOIN_FULL"

/-- Whether the condition of a join is shown. -/
def keepsCondition : JoinKind → Bool
  | .other => false
  | _ => true

def joinNode (kind : JoinKind) (left right : Tree) (condition : Option Tree) : Tree :=
  node "JoinExpr"
    ([("jointype", .text (joinType kind)), ("larg", left), ("rarg", right)]
      ++ optionalField "quals" (if keepsCondition kind then condition else none))

def setOperatorName : SetOperator → String
  | .union => "SETOP_UNION"
  | .except => "SETOP_EXCEPT"
  | .intersect => "SETOP_INTERSECT"

/-- A list under a key, unless it is empty. -/
def listField (key : String) (items : List Tree) : Fields :=
  if items.isEmpty then [] else [(key, .list items)]

def targetNode (label : Option Ident) (value : Tree) : Tree :=
  node "ResTarget" (optionalField "name" (label.map fun i => .text i.name) ++ [("val", value)])

def insertNode (source : Option Tree) : Tree :=
  node "InsertStmt" (optionalField "selectStmt" source)

def updateNode (target condition : Option Tree) : Tree :=
  node "UpdateStmt" (optionalField "relation" target ++ optionalField "whereClause" condition)

/-- Sets the named queries of the statement that a node holds. -/
def attachTables (recursive : Bool) (tables : List Tree) : Tree → Tree
  | .object ((kind, .object fields) :: rest) =>
      let clause := Tree.object [("ctes", .list tables), ("recursive", .bool recursive)]
      .object ((kind, .object (Fields.put fields "withClause" clause)) :: rest)
  | t => t

/-- An expression's node, and what it contributes to a chain of `AND` or `OR`
around it. -/
structure Built where
  node : Tree
  conjuncts : List Tree
  disjuncts : List Tree

/-- An expression that continues no chain. -/
def Built.single (t : Tree) : Built :=
  ⟨t, [t], [t]⟩

mutual

/-- Builds an expression. -/
def built : Expr → Built
  | .identifier name => .single (columnRef [name])
  | .compound parts => .single (columnRef parts)
  | .literal value => .single (literalNode value)
  | .nested inner => .single (built inner).node
  | .binary left op right =>
      let l := built left
      let r := built right
      match op with
      | .and =>
          let args := l.conjuncts ++ r.conjuncts
          let t := boolExpr "AND_EXPR" args
          ⟨t, args, [t]⟩
      | .or =>
          let args := l.disjuncts ++ r.disjuncts
          let t := boolExpr "OR_EXPR" args
          ⟨t, [t], args⟩
      | .symbol s => .single (operatorNode "AEXPR_OP" s (some l.node) r.node)
  | .unary op operand =>
      match op with
      | .not => .single (boolExpr "NOT_EXPR" [(built operand).node])
      | .symbol s => .single (operatorNode "AEXPR_OP" s none (built operand).node)
  | .like negated subject pattern =>
      .single (operatorNode "AEXPR_LIKE" (if negated then "!~~" else "~~")
        (some (built subject).node) (built pattern).node)
  | .ilike negated subject pattern =>
      .single (operatorNode "AEXPR_ILIKE" (if negated then "!~~*" else "~~*")
        (some (built subject).node) (built pattern).node)
  | .inList negated subject items =>
      .single (operatorNode "AEXPR_IN" (if negated then "<>" else "=")
        (some (built subject).node) (.list (exprNodes items)))
  | .inSubquery negated subject query =>
      .single (negatedIf negated
        (subLink "ANY_SUBLINK" (some (built subject).node) (queryNode query)))
  | .between negated subject low high =>
      .single (operatorNode (if negated then "AEXPR_NOT_BETWEEN" else "AEXPR_BETWEEN")
        (if negated then "NOT BETWEEN" else "BETWEEN")
        (some (built subject).node) (.list [(built low).node, (built high).node]))
  | .isNull inner => .single (nullTest (built inner).node "IS_NULL")
  | .isNotNull inner => .single (nullTest (built inner).node "IS_NOT_NULL")
  | .call name args => .single (callNode name (args.any isStar) (argNodes args))
  | .cast inner type => .single (typeCast (built inner).node type)
  | .subquery query => .single (subLink "EXPR_SUBLINK" none (queryNode query))
  | .exists negated query =>
      .single (negatedIf negated (subLink "EXISTS_SUBLINK" none (queryNode query)))
  | .special _ _ => .single .null

/-- Builds some expressions. -/
def exprNodes : List Expr → List Tree
  | [] => []
  | e :: rest => (built e).node :: exprNodes rest

/-- Builds an expression that may be absent. -/
def optionNode : Option Expr → Option Tree
  | none => none
  | some e => some (built e).node

/-- Builds the arguments that are expressions. -/
def argNodes : List Arg → List Tree
  | [] => []
  | .positional value :: rest => (built value).node :: argNodes rest
  | .named _ value :: rest => (built value).node :: argNodes rest
  | _ :: rest => argNodes rest

/-- Builds a query. -/
def queryNode : Query → Tree
  | .plain body => setExprNode body
  | .withTables recursive tables body =>
      attachTables recursive (cteNodes tables) (setExprNode body)

/-- Builds a query that may be absent. -/
def optionQueryNode : Option Query → Option Tree
  | none => none
  | some q => some (queryNode q)

/-- Builds named queries. -/
def cteNodes : List Cte → List Tree
  | [] => []
  | .mk name query :: rest =>
      node "CommonTableExpr" [("ctename", .text name.name), ("ctequery", queryNode query)]
        :: cteNodes rest

/-- Builds the body of a query. -/
def setExprNode : SetExpr → Tree
  | .select items sources condition having =>
      node "SelectStmt"
        (listField "targetList" (itemNodes items) ++ listField "fromClause" (fromNodes sources)
          ++ optionalField "whereClause" (optionNode condition)
          ++ optionalField "havingClause" (optionNode having))
  | .query inner => queryNode inner
  | .combined op left right =>
      node "SelectStmt"
        [("op", .text (setOperatorName op)), ("larg", setExprNode left),
          ("rarg", setExprNode right)]
  | .values => node "SelectStmt" []
  | .table => node "SelectStmt" []
  | .insert source => insertNode (optionQueryNode source)
  | .update target condition => updateNode (factorNode? target) (optionNode condition)
  | .directory => .object []

/-- Builds the items of a select list. -/
def itemNodes : List SelectItem → List Tree
  | [] => []
  | .plain value :: rest => targetNode none (built value).node :: itemNodes rest
  | .aliased value label :: rest => targetNode (some label) (built value).node :: itemNodes rest
  | .qualifiedStar parts :: rest =>
      targetNode none (node "ColumnRef" [("fields", .list (parts.map identSegment ++ [starNode]))])
        :: itemNodes rest
  | .star :: rest =>
      targetNode none (node "ColumnRef" [("fields", .list [starNode])]) :: itemNodes rest

/-- Builds the items of a from clause that have a node. -/
def fromNodes : List FromItem → List Tree
  | [] => []
  | item :: rest => (fromNode? item).toList ++ fromNodes rest

/-- Builds an item of a from clause: its joins are folded from left to right. -/
def fromNode? : FromItem → Option Tree
  | .mk relation joins =>
      match factorNode? relation with
      | none => none
      | some t => some (joined t joins)

/-- Joins relations to a node; one that has no node is passed over. -/
def joined (left : Tree) : List Join → Tree
  | [] => left
  | .mk kind relation condition :: rest =>
      match factorNode? relation with
      | none => joined left rest
      | some right => joined (joinNode kind left right (optionNode condition)) rest

/-- Builds a relation, if it has a node. -/
def factorNode? : TableFactor → Option Tree
  | .table name label => some (node "RangeVar" (rangeVarFields name ++ aliasFields label))
  | .derived query label =>
      some (node "RangeSubselect" ([("subquery", queryNode query)] ++ aliasFields label))
  | .nestedJoin item => fromNode? item
  | .other => none

end

/-- The node of an expression. -/
def exprNode (e : Expr) : Tree :=
  (built e).node

/-- The node of a statement, if it has one. -/
def statementNode? : Statement → Option Tree
  | .query q => some (queryNode q)
  | .insert source => some (insertNode (optionQueryNode source))
  | .update target condition => some (updateNode (factorNode? target) (optionNode condition))
  | .delete condition =>
      some (node "DeleteStmt" (optionalField "whereClause" (optionNode condition)))
  | .explain inner =>
      match statementNode? inner with
      | none => none
      | some t => some (node "ExplainStmt" [("query", t)])
  | .describe => none
  | .other => none

/-- The version of the format of parse trees. -/
def formatVersion : Nat := 160001

/-- The parse tree of some statements. -/
def ofStatements (statements : List Statement) : Tree :=
  .object
    [("version", .nat formatVersion),
      ("stmts",
        .list ((statements.filterMap statementNode?).map fun t => .object [("stmt", t)]))]

end QueryAdvisor.ParseTree
