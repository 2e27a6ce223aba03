import QueryAdvisor.Text.Case

/-!
# SQL statements

The statements of a query text, as far as a parse tree shows them: clauses
that no parse tree shows (sort orders, limits, groupings, window frames) are
read and then dropped. Expressions that have no node of their own are kept as
a `special` form with the expressions in it.

Unquoted identifiers fold to lower case; quoted ones keep their text.
-/

namespace QueryAdvisor.Sql

/-- An identifier as written. -/
structure Ident where
  text : String
  quoted : Bool
deriving DecidableEq, Repr

/-- The name that an identifier stands for. -/
def Ident.name (i : Ident) : String :=
  if i.quoted then i.text else Text.lowered i.text

/-- A literal value. -/
inductive Literal where
  | number (digits : String)
  | singleQuoted (text : String)
  | escaped (text : String)
  | national (text : String)
  | dollarQuoted (text : String)
  | unicode (text : String)
  | hex (text : String)
  | bool (value : Bool)
  | null
  | placeholder (text : String)
deriving DecidableEq, Repr

/-- An operator between two operands. -/
inductive BinaryOp where
  | and
  | or
  | symbol (text : String)
deriving DecidableEq, Repr

/-- An operator with one operand. -/
inductive UnaryOp where
  | not
  | symbol (text : String)
deriving DecidableEq, Repr

/-- Forms of expression that have no node in a parse tree. -/
inductive SpecialForm where
  | array
  | atTimeZone
  | caseWhen
  | ceil
  | collate
  | compositeField
  | convert
  | distinctFrom
  | extract
  | floor
  | inUnnest
  | interval
  | introduced
  | overlay
  | position
  | quantified
  | regexp
  | similarTo
  | subscript
  | substring
  | trim
  | truthTest
  | tuple
  | typedLiteral
  | wildcard
deriving DecidableEq, Repr

/-- How two tables are joined; only the first four keep their condition. -/
inductive JoinKind where
  | inner
  | left
  | right
  | full
  | other
deriving DecidableEq, Repr

/-- How two queries are combined. -/
inductive SetOperator where
  | union
  | except
  | intersect
deriving DecidableEq, Repr

mutual

/-- An expression. -/
inductive Expr where
  | identifier (name : Ident)
  | compound (parts : List Ident)
  | literal (value : Literal)
  | nested (inner : Expr)
  | binary (left : Expr) (op : BinaryOp) (right : Expr)
  | unary (op : UnaryOp) (operand : Expr)
  | like (negated : Bool) (subject pattern : Expr)
  | ilike (negated : Bool) (subject pattern : Expr)
  | inList (negated : Bool) (subject : Expr) (items : List Expr)
  | inSubquery (negated : Bool) (subject : Expr) (query : Query)
  | between (negated : Bool) (subject low high : Expr)
  | isNull (inner : Expr)
  | isNotNull (inner : Expr)
  /-- A function call; without parentheses it has no arguments at all. -/
  | call (name : List Ident) (args : List Arg)
  | cast (inner : Expr) (type : String)
  | subquery (query : Query)
  | exists (negated : Bool) (query : Query)
  | special (form : SpecialForm) (parts : List Expr)

/-- An argument of a function call. -/
inductive Arg where
  | positional (value : Expr)
  | star
  | qualifiedStar (parts : List Ident)
  | named (name : Ident) (value : Expr)
  | namedStar (name : Ident)

/-- A query: what it is based on, and the queries that it names first. -/
inductive Query where
  | plain (body : SetExpr)
  | withTables (recursive : Bool) (tables : List Cte) (body : SetExpr)

/-- A named query. -/
inductive Cte where
  | mk (name : Ident) (query : Query)

/-- The body of a query. -/
inductive SetExpr where
  | select (items : List SelectItem) (sources : List FromItem) (condition : Option Expr)
      (having : Option Expr)
  | query (inner : Query)
  | combined (op : SetOperator) (left right : SetExpr)
  | values
  | table
  | insert (source : Option Query)
  | update (target : TableFactor) (condition : Option Expr)
  /-- An insertion into a directory. -/
  | directory

/-- An item of a select list. -/
inductive SelectItem where
  | plain (value : Expr)
  | aliased (value : Expr) (label : Ident)
  | qualifiedStar (parts : List Ident)
  | star

/-- An item of a from clause: a relation, and what is joined to it. -/
inductive FromItem where
  | mk (relation : TableFactor) (joins : List Join)

/-- A relation joined to those in front of it. -/
inductive Join where
  | mk (kind : JoinKind) (relation : TableFactor) (condition : Option Expr)

/-- A relation. -/
inductive TableFactor where
  | table (name : List Ident) (label : Option Ident)
  | derived (query : Query) (label : Option Ident)
  | nestedJoin (item : FromItem)
  | other

end

/-- A statement. -/
inductive Statement where
  | query (query : Query)
  | insert (source : Option Query)
  | update (target : TableFactor) (condition : Option Expr)
  | delete (condition : Option Expr)
  | explain (inner : Statement)
  /-- The description of a table. -/
  | describe
  | other

end QueryAdvisor.Sql
