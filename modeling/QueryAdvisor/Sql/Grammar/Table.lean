import QueryAdvisor.Sql.Grammar.Column

/-!
# Definitions of tables, views and indexes
-/

namespace QueryAdvisor.Sql.Grammar

open QueryAdvisor.Sql.Parser

/-- Columns that a table is split by, if there are any. -/
def partitionColumns (inner : Level) : Parser Unit := do
  let _ ← clause ["PARTITIONED", "BY"] (parenthesized (commaSeparated (columnDefinition inner)))

/-! ## Storage -/

/-- What ends a part of a stored row, if it is given. The first word stays
consumed when the others do not follow. -/
def rowDelimiter? : Parser (Option Unit) := do
  match ← oneOf? ["FIELDS", "COLLECTION", "MAP", "LINES", "NULL"] with
  | some "FIELDS" =>
      if ← clause ["TERMINATED", "BY"] identifier then
        let _ ← clause ["ESCAPED", "BY"] identifier
        pure (some ())
      else pure none
  | some "COLLECTION" => word ["ITEMS", "TERMINATED", "BY"]
  | some "MAP" => word ["KEYS", "TERMINATED", "BY"]
  | some "LINES" => word ["TERMINATED", "BY"]
  | some _ => word ["DEFINED", "AS"]
  | none => pure none
where
  /-- A delimiter behind some keywords. -/
  word (ks : List String) : Parser (Option Unit) := do
    if ← clause ks identifier then pure (some ()) else pure none

/-- How rows are stored, behind its keyword. -/
def rowFormatRest : Parser Unit := do
  expectKeyword "FORMAT"
  match ← oneOf? ["SERDE", "DELIMITED"] with
  | some "SERDE" =>
      let _ ← literalText
  | _ =>
      let _ ← many rowDelimiter?

/-- The format of the files of a table, behind its keyword. -/
def storedRest (inner : Level) : Parser Unit := do
  expectKeyword "AS"
  if ← keyword "INPUTFORMAT" then
    let _ ← inner.expr
    expectKeyword "OUTPUTFORMAT"
    let _ ← inner.expr
  else fileFormat

/-- Where and how a table is stored. -/
def storageClauses (inner : Level) : Parser Unit := do
  let _ ← many do
    if ← clause ["ROW"] rowFormatRest then pure (some ())
    else if ← clause ["STORED"] (storedRest inner) then pure (some ())
    else if ← clause ["LOCATION"] literalText then pure (some ())
    else if ← optionsBehind inner ["WITH", "SERDEPROPERTIES"] then pure (some ())
    else pure none

/-! ## Tables -/

/-- A word, quoted or not. -/
def anyWord : Parser Unit := do
  match ← next? with
  | some (.word _ _) | some (.quotedWord _) => pure ()
  | _ => fail

/-- What keeps a table, if it is given. -/
def engineClause : Parser Unit := do
  if ← keyword "ENGINE" then
    expectSymbol "="
    anyWord
    optionalColumnList

/-- The first number to count from, if it is given. -/
def counterClause : Parser Unit := do
  if ← keyword "AUTO_INCREMENT" then
    let _ ← symbol "="
    let _ ← DataType.wholeNumber 32

/-- The order of the rows of a table, if it is given. -/
def rowOrderClause (inner : Level) : Parser Unit := do
  if ← keywords ["ORDER", "BY"] then
    if ← seesSymbol "(" then
      let _ ← parenthesized (commaSeparatedBefore ")" inner.expr)
    else
      let _ ← inner.expr

/-- A word that keywords are set to, if they are there. -/
def wordSetting (ks : List String) : Parser Unit := do
  let _ ← clause ks do
    expectSymbol "="
    anyWord

/-- What happens to a table at the end of a transaction, if it is given. -/
def onCommitClause : Parser Unit := do
  if ← keywords ["ON", "COMMIT", "DELETE", "ROWS"] then pure ()
  else if ← keywords ["ON", "COMMIT", "PRESERVE", "ROWS"] then pure ()
  else
    let _ ← keywords ["ON", "COMMIT", "DROP"]

/-- What a table is for, if it is given. -/
def commentClause : Parser Unit := do
  if ← keyword "COMMENT" then
    let _ ← symbol "="
    match ← next? with
    | some (.singleQuoted _) => pure ()
    | _ => fail

/-- A table behind its keyword. -/
def createTableRest (inner : Level) : Parser Unit := do
  ifNotExists
  let _ ← name
  clusterClause
  if (← oneOf? ["LIKE", "ILIKE"]).isSome then skipName
  if ← keyword "CLONE" then skipName
  tableElements inner
  let _ ← keywords ["WITHOUT", "ROWID"]
  partitionColumns inner
  storageClauses inner
  withOptions inner
  let _ ← optionsBehind inner ["TBLPROPERTIES"]
  engineClause
  counterClause
  rowOrderClause inner
  let _ ← clause ["PARTITION", "BY"] inner.expr
  wordSetting ["DEFAULT", "CHARSET"]
  wordSetting ["COLLATE"]
  onCommitClause
  let _ ← keyword "STRICT"
  commentClause
  let _ ← after? "AS" inner.query

/-- A table that is stored elsewhere, behind its first keyword. -/
def createExternalRest (inner : Level) : Parser Unit := do
  expectKeyword "TABLE"
  ifNotExists
  let _ ← name
  tableElements inner
  partitionColumns inner
  storageClauses inner
  let _ ← optionsBehind inner ["TBLPROPERTIES"]

/-- A table that a module provides, behind its first keyword. -/
def createVirtualRest : Parser Unit := do
  expectKeyword "TABLE"
  ifNotExists
  let _ ← name
  expectKeyword "USING"
  let _ ← identifier
  optionalColumnList

/-! ## Views and indexes -/

/-- The columns of a view, if they are named. -/
def viewColumns : Parser Unit := do
  if ← seesSymbol "(" then
    let _ ← parenthesized (commaSeparatedBefore ")" identifier)

/-- A view behind its keyword. -/
def createViewRest (inner : Level) : Parser Unit := do
  let _ ← name
  viewColumns
  withOptions inner
  let _ ← clause ["CLUSTER"] do
    expectKeyword "BY"
    optionalColumnList
  expectKeyword "AS"
  let _ ← inner.query

/-- An index behind its keyword. -/
def createIndexRest (inner : Level) : Parser Unit := do
  let _ ← keyword "CONCURRENTLY"
  let isNamed ← do
    if ← keywords ["IF", "NOT", "EXISTS"] then pure true else pure !(← keyword "ON")
  if isNamed then
    let _ ← name
    expectKeyword "ON"
  let _ ← name
  let _ ← after? "USING" identifier
  parenthesized (orderItems inner)
  let _ ← after? "INCLUDE" columnList
  if ← keyword "NULLS" then
    let _ ← keyword "NOT"
    expectKeyword "DISTINCT"
  let _ ← after? "WITH" (groupedExprs inner)
  let _ ← after? "WHERE" inner.expr

end QueryAdvisor.Sql.Grammar
