import QueryAdvisor.Sql.Grammar.Select

/-!
# Statements that change data

Of an insertion into a table the source is kept, of an update its target and
condition, of a deletion its condition. A query may be an insertion or an
update too.
-/

namespace QueryAdvisor.Sql.Grammar

open QueryAdvisor.Sql.Parser

/-- A value given to a column, or to several. -/
def assignment (inner : Level) : Parser Unit := do
  if ← seesSymbol "(" then
    let _ ← parenthesized (commaSeparated name)
  else
    let _ ← name
  expectSymbol "="
  let _ ← inner.expr

def assignments (inner : Level) : Parser Unit := do
  let _ ← commaSeparated (assignment inner)

/-- The rows that a statement gives back. -/
def returningClause (inner : Level) : Parser Unit := do
  let _ ← after? "RETURNING" (selectItems inner)

/-- What an insertion into a table inserts; names of columns may stand in
front. -/
def insertSource (inner : Level) : Parser (Option Query) := do
  if ← keywords ["DEFAULT", "VALUES"] then pure none
  else do
    optionalColumnList
    if ← keyword "PARTITION" then
      let _ ← parenthesized inner.exprs
    some <$> inner.query

/-- What an insertion does about rows that are there already. -/
def onConflict (inner : Level) : Parser Unit := do
  if ← keyword "ON" then
    if ← keyword "CONFLICT" then
      if ← keywords ["ON", "CONSTRAINT"] then
        let _ ← name
      else optionalColumnList
      expectKeyword "DO"
      if ← keyword "NOTHING" then pure ()
      else do
        expectKeywords ["UPDATE", "SET"]
        assignments inner
        let _ ← after? "WHERE" inner.expr
    else do
      expectKeywords ["DUPLICATE", "KEY", "UPDATE"]
      assignments inner

/-- The format of rows in a file. -/
def fileFormat : Parser Unit := do
  let _ ← expectOneOf ["AVRO", "JSONFILE", "ORC", "PARQUET", "RCFILE", "SEQUENCEFILE", "TEXTFILE"]

/-- Where an insertion goes. -/
inductive Insertion where
  | intoTable (source : Option Query)
  | intoDirectory

/-- An insertion into a directory, behind its keyword. -/
def insertIntoDirectory (inner : Level) : Parser Unit := do
  let _ ← literalText
  let _ ← clause ["STORED", "AS"] fileFormat
  let _ ← inner.query

/-- An insertion into a table: its source. -/
def insertIntoTable (inner : Level) : Parser (Option Query) := do
  let _ ← keyword "TABLE"
  let _ ← name
  let _ ← after? "AS" identifier
  let source ← insertSource inner
  onConflict inner
  returningClause inner
  pure source

/-- An insertion behind its keyword. -/
def insertRest (inner : Level) : Parser Insertion := do
  let _ ← oneOf? ["INTO", "OVERWRITE"]
  let _ ← keyword "LOCAL"
  if ← keyword "DIRECTORY" then
    insertIntoDirectory inner
    pure .intoDirectory
  else .intoTable <$> insertIntoTable inner

/-- An update behind its keyword: its target and condition. -/
def updateRest (inner : Level) : Parser (TableFactor × Option Expr) := do
  let .mk target _ ← fromItem inner
  expectKeyword "SET"
  assignments inner
  let _ ← after? "FROM" (fromItem inner)
  let condition ← after? "WHERE" inner.expr
  returningClause inner
  pure (target, condition)

/-- A deletion behind its keyword: its condition. -/
def deleteRest (inner : Level) : Parser (Option Expr) := do
  if ← keyword "FROM" then pure ()
  else do
    let _ ← commaSeparated name
    expectKeyword "FROM"
  let _ ← commaSeparated (fromItem inner)
  let _ ← after? "USING" (commaSeparated (fromItem inner))
  let condition ← after? "WHERE" inner.expr
  returningClause inner
  optionalOrder inner
  let _ ← after? "LIMIT" (limitRest inner)
  pure condition

/-- A query behind any named queries. -/
def queryBody (inner : Level) : Parser SetExpr := do
  if ← keyword "INSERT" then
    match ← insertRest inner with
    | .intoTable source => pure (.insert source)
    | .intoDirectory => pure .directory
  else if ← keyword "UPDATE" then do
    let (target, condition) ← updateRest inner
    pure (.update target condition)
  else do
    let b ← body inner
    queryTail inner
    pure b

/-- A query. -/
def query (inner : Level) : Parser Query := do
  if ← keyword "WITH" then
    let recursive ← keyword "RECURSIVE"
    let tables ← commaSeparated (cte inner)
    .withTables recursive tables <$> queryBody inner
  else .plain <$> queryBody inner

end QueryAdvisor.Sql.Grammar
