import QueryAdvisor.Sql.DataType

/-!
# Levels of nesting

Statements, queries and expressions contain one another. The grammar is
written one level at a time: what stands inside is read by the parsers of the
level below, and there are only so many levels.
-/

namespace QueryAdvisor.Sql

/-- The parsers of what stands one level further inside. -/
structure Level where
  statement : Parser Statement
  query : Parser Query
  /-- An expression whose operators bind tighter than a power. -/
  operation : (power : Nat) → Parser Expr

namespace Level

/-- An expression. -/
def expr (inner : Level) : Parser Expr :=
  inner.operation 0

/-- One or more expressions with commas between them. -/
def exprs (inner : Level) : Parser (List Expr) :=
  Parser.commaSeparated inner.expr

/-- The innermost level: nothing can be nested any further. -/
def innermost : Level where
  statement := Parser.tooDeep
  query := Parser.tooDeep
  operation _ := Parser.tooDeep

end Level

namespace Grammar

open QueryAdvisor.Sql.Parser

/-- The literal that a token is. -/
def literalOf? : Token → Option Literal
  | .number digits _ => some (.number digits)
  | .singleQuoted s => some (.singleQuoted s)
  | .escaped s => some (.escaped s)
  | .national s => some (.national s)
  | .unicode s => some (.unicode s)
  | .hex s => some (.hex s)
  | .dollarQuoted _ s => some (.dollarQuoted s)
  | .placeholder s => some (.placeholder s)
  | _ => none

/-- The rest of a placeholder that starts with a mark. -/
def markedPlaceholder (mark : String) : Parser Literal := do
  match ← next? with
  | some (.word text _) => pure (.placeholder (mark ++ text))
  | some (.quotedWord text) => pure (.placeholder (mark ++ text))
  | some (.number digits false) => pure (.placeholder (mark ++ digits))
  | _ => fail

/-- A literal value. -/
def literal : Parser Literal := do
  match ← next? with
  | some (.word _ "TRUE") => pure (.bool true)
  | some (.word _ "FALSE") => pure (.bool false)
  | some (.word _ "NULL") => pure .null
  | some (.quotedWord s) => pure (.singleQuoted s)
  | some (.symbol ":") => markedPlaceholder ":"
  | some (.symbol "@") => markedPlaceholder "@"
  | some token =>
      match literalOf? token with
      | some value => pure value
      | none => fail
  | none => fail

/-- An alias behind `AS`, or one that is no reserved keyword. -/
def alias? (reserved : List String) : Parser (Option Ident) := do
  if ← keyword "AS" then some <$> identifier
  else
    match ← peek? with
    | some (.word _ k) => if reserved.contains k then pure none else some <$> identifier
    | some (.quotedWord _) | some (.singleQuoted _) => some <$> identifier
    | _ => pure none

/-- An alias of a table, which may name the columns too. -/
def tableAlias? : Parser (Option Ident) := do
  match ← alias? neverTableAlias with
  | some name => do
      optionalColumnList
      pure (some name)
  | none => pure none

end Grammar

end QueryAdvisor.Sql
