import QueryAdvisor.Sql.Statement

/-!
# Statements without their texts

The skeleton of a statement is the statement with every name and every text
literal emptied: what is left is how it is put together. Whether a name was
quoted stays, and so does the kind of a literal; numbers, placeholders, truth
values, negations and the kinds of joins are no texts and stay as they are.
The names of operators and of types are emptied as well, since both can be
given by a name of the user's own.

Two statements with the same skeleton differ in nothing but the texts that
somebody wrote between the words of the language.
-/

namespace QueryAdvisor.Sql

def Ident.skeleton (i : Ident) : Ident :=
  { i with text := "" }

def Literal.skeleton : Literal → Literal
  | .singleQuoted _ => .singleQuoted ""
  | .escaped _ => .escaped ""
  | .national _ => .national ""
  | .dollarQuoted _ => .dollarQuoted ""
  | .unicode _ => .unicode ""
  | .hex _ => .hex ""
  | .number digits => .number digits
  | .bool value => .bool value
  | .null => .null
  | .placeholder text => .placeholder text

def BinaryOp.skeleton : BinaryOp → BinaryOp
  | .and => .and
  | .or => .or
  | .symbol _ => .symbol ""

def UnaryOp.skeleton : UnaryOp → UnaryOp
  | .not => .not
  | .symbol _ => .symbol ""

mutual

def exprSkeleton : Expr → Expr
  | .identifier name => .identifier name.skeleton
  | .compound parts => .compound (parts.map Ident.skeleton)
  | .literal value => .literal value.skeleton
  | .nested inner => .nested (exprSkeleton inner)
  | .binary left op right => .binary (exprSkeleton left) op.skeleton (exprSkeleton right)
  | .unary op operand => .unary op.skeleton (exprSkeleton operand)
  | .like negated subject pattern =>
      .like negated (exprSkeleton subject) (exprSkeleton pattern)
  | .ilike negated subject pattern =>
      .ilike negated (exprSkeleton subject) (exprSkeleton pattern)
  | .inList negated subject items =>
      .inList negated (exprSkeleton subject) (exprsSkeleton items)
  | .inSubquery negated subject query =>
      .inSubquery negated (exprSkeleton subject) (querySkeleton query)
  | .between negated subject low high =>
      .between negated (exprSkeleton subject) (exprSkeleton low) (exprSkeleton high)
  | .isNull inner => .isNull (exprSkeleton inner)
  | .isNotNull inner => .isNotNull (exprSkeleton inner)
  | .call name args => .call (name.map Ident.skeleton) (argsSkeleton args)
  | .cast inner _ => .cast (exprSkeleton inner) ""
  | .subquery query => .subquery (querySkeleton query)
  | .exists negated query => .exists negated (querySkeleton query)
  | .special form parts => .special form (exprsSkeleton parts)

def exprsSkeleton : List Expr → List Expr
  | [] => []
  | e :: rest => exprSkeleton e :: exprsSkeleton rest

def optionSkeleton : Option Expr → Option Expr
  | none => none
  | some e => some (exprSkeleton e)

def argsSkeleton : List Arg → List Arg
  | [] => []
  | .positional value :: rest => .positional (exprSkeleton value) :: argsSkeleton rest
  | .star :: rest => .star :: argsSkeleton rest
  | .qualifiedStar parts :: rest =>
      .qualifiedStar (parts.map Ident.skeleton) :: argsSkeleton rest
  | .named name value :: rest => .named name.skeleton (exprSkeleton value) :: argsSkeleton rest
  | .namedStar name :: rest => .namedStar name.skeleton :: argsSkeleton rest

def querySkeleton : Query → Query
  | .plain body => .plain (bodySkeleton body)
  | .withTables recursive tables body =>
      .withTables recursive (tablesSkeleton tables) (bodySkeleton body)

def optionQuerySkeleton : Option Query → Option Query
  | none => none
  | some q => some (querySkeleton q)

def tablesSkeleton : List Cte → List Cte
  | [] => []
  | .mk name query :: rest => .mk name.skeleton (querySkeleton query) :: tablesSkeleton rest

def bodySkeleton : SetExpr → SetExpr
  | .select items sources condition having =>
      .select (itemsSkeleton items) (sourcesSkeleton sources) (optionSkeleton condition)
        (optionSkeleton having)
  | .query inner => .query (querySkeleton inner)
  | .combined op left right => .combined op (bodySkeleton left) (bodySkeleton right)
  | .values => .values
  | .table => .table
  | .insert source => .insert (optionQuerySkeleton source)
  | .update target condition => .update (factorSkeleton target) (optionSkeleton condition)
  | .directory => .directory

def itemsSkeleton : List SelectItem → List SelectItem
  | [] => []
  | .plain value :: rest => .plain (exprSkeleton value) :: itemsSkeleton rest
  | .aliased value label :: rest =>
      .aliased (exprSkeleton value) label.skeleton :: itemsSkeleton rest
  | .qualifiedStar parts :: rest =>
      .qualifiedStar (parts.map Ident.skeleton) :: itemsSkeleton rest
  | .star :: rest => .star :: itemsSkeleton rest

def sourcesSkeleton : List FromItem → List FromItem
  | [] => []
  | item :: rest => sourceSkeleton item :: sourcesSkeleton rest

def sourceSkeleton : FromItem → FromItem
  | .mk relation joins => .mk (factorSkeleton relation) (joinsSkeleton joins)

def joinsSkeleton : List Join → List Join
  | [] => []
  | .mk kind relation condition :: rest =>
      .mk kind (factorSkeleton relation) (optionSkeleton condition) :: joinsSkeleton rest

def factorSkeleton : TableFactor → TableFactor
  | .table name label => .table (name.map Ident.skeleton) (label.map Ident.skeleton)
  | .derived query label => .derived (querySkeleton query) (label.map Ident.skeleton)
  | .nestedJoin item => .nestedJoin (sourceSkeleton item)
  | .other => .other

end

/-- How a statement is put together. -/
def Statement.skeleton : Statement → Statement
  | .query q => .query (querySkeleton q)
  | .insert source => .insert (optionQuerySkeleton source)
  | .update target condition => .update (factorSkeleton target) (optionSkeleton condition)
  | .delete condition => .delete (optionSkeleton condition)
  | .explain inner => .explain inner.skeleton
  | .describe => .describe
  | .other => .other

end QueryAdvisor.Sql
