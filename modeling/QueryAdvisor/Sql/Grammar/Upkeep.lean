import QueryAdvisor.Sql.Grammar.Clause

/-!
# Statements about stored data

Statistics, caches, comments, other databases, and rows that are copied from
and to files.
-/

namespace QueryAdvisor.Sql.Grammar

open QueryAdvisor.Sql.Parser

/-- What is gathered about a table, if more is asked for. -/
def analyzeClause? (inner : Level) : Parser (Option Unit) := do
  match ← oneOf? ["PARTITION", "FOR", "CACHE", "NOSCAN", "COMPUTE"] with
  | some "PARTITION" => some <$> groupedExprs inner
  | some "FOR" => do
      expectKeyword "COLUMNS"
      let _ ← attempt identifiers
      pure (some ())
  | some "CACHE" => some <$> expectKeyword "METADATA"
  | some "COMPUTE" => some <$> expectKeyword "STATISTICS"
  | some _ => pure (some ())
  | none => pure none

/-- Statistics to gather, behind the keyword. -/
def analyzeRest (inner : Level) : Parser Unit := do
  expectKeyword "TABLE"
  let _ ← name
  let _ ← many (analyzeClause? inner)

/-- Another database to use, behind the keyword. -/
def attachRest (inner : Level) : Parser Unit := do
  let _ ← keyword "DATABASE"
  let _ ← inner.expr
  expectKeyword "AS"
  let _ ← identifier

/-- What is done about partitions. -/
def partitionAction : Parser Unit := do
  let _ ← oneOf? ["ADD", "DROP", "SYNC"]
  expectKeyword "PARTITIONS"

/-- A table whose partitions are checked, behind the keyword. -/
def checkPartitionsRest : Parser Unit := do
  let _ ← keyword "REPAIR"
  expectKeyword "TABLE"
  let _ ← name
  let _ ← attempt partitionAction

/-- The query whose rows are cached. -/
def cachedQuery (inner : Level) : Parser Unit := do
  match ← peek? with
  | some (.word _ _) | some (.quotedWord _) =>
      let _ ← keyword "AS"
      let _ ← inner.query
  | _ => fail

/-- A table to cache, behind the keyword; unless it is all that is left, the
query follows. -/
def cacheRest (inner : Level) : Parser Unit := do
  if ← keyword "TABLE" then pure ()
  else do
    let _ ← name
    expectKeyword "TABLE"
  let _ ← name
  let _ ← optionsBehind inner ["OPTIONS"]
  if ← atEnd then pure () else cachedQuery inner

/-- A table that is cached no longer, behind the keyword. -/
def uncacheRest : Parser Unit := do
  expectKeyword "TABLE"
  ifExists
  let _ ← name

/-- A comment behind its keyword. -/
def commentRest : Parser Unit := do
  ifExists
  expectKeyword "ON"
  let _ ← expectOneOf ["COLUMN", "TABLE", "EXTENSION"]
  let _ ← name
  expectKeyword "IS"
  if ← keyword "NULL" then pure ()
  else
    let _ ← literalText

/-! ## Rows from and to files -/

/-- A text of one byte. -/
def literalByte : Parser Unit := do
  if (← literalText).utf8ByteSize = 1 then pure () else fail

/-- An option of a copy. -/
def copyOption : Parser Unit := do
  match ← expectOneOf ["FORMAT", "FREEZE", "DELIMITER", "NULL", "HEADER", "QUOTE", "ESCAPE",
      "FORCE_QUOTE", "FORCE_NOT_NULL", "FORCE_NULL", "ENCODING"] with
  | "FORMAT" =>
      let _ ← identifier
  | "FREEZE" | "HEADER" =>
      let _ ← oneOf? ["TRUE", "FALSE"]
  | "DELIMITER" | "QUOTE" | "ESCAPE" => literalByte
  | "NULL" | "ENCODING" =>
      let _ ← literalText
  | _ =>
      let _ ← columnList

/-- An option of a copy of text with separators, in the older form. -/
def separatedTextOption : Parser Unit := do
  match ← expectOneOf ["HEADER", "QUOTE", "ESCAPE", "FORCE"] with
  | "HEADER" => pure ()
  | "FORCE" =>
      if ← keywords ["NOT", "NULL"] then identifiers
      else do
        expectKeyword "QUOTE"
        identifiers
  | _ => do
      let _ ← keyword "AS"
      literalByte

/-- An option of a copy in the older form. -/
def olderCopyOption : Parser Unit := do
  match ← expectOneOf ["BINARY", "DELIMITER", "NULL", "CSV"] with
  | "BINARY" => pure ()
  | "DELIMITER" => do
      let _ ← keyword "AS"
      literalByte
  | "NULL" => do
      let _ ← keyword "AS"
      let _ ← literalText
  | _ =>
      let _ ← many (attempt separatedTextOption)

/-- What is left behind rows that stand in the text itself: they end at a
backslash and a point. Any other token behind a backslash does not count. -/
def dropRows : List Token → List Token
  | [] => []
  | token :: rest =>
      if token.isSymbol "\\" then
        match rest with
        | [] => []
        | t :: rest => if t.isSymbol "." then rest else dropRows rest
      else dropRows rest

/-- What is copied; gives whether it is a query. -/
def copySource (inner : Level) : Parser Bool := do
  if ← seesSymbol "(" then
    let _ ← parenthesized inner.query
    pure true
  else do
    let _ ← name
    optionalColumnList
    pure false

/-- A copy behind its keyword. -/
def copyRest (inner : Level) : Parser Unit := do
  let isQuery ← copySource inner
  let direction ← expectOneOf ["FROM", "TO"]
  if isQuery && direction = "FROM" then fail
  let target ← oneOf? ["STDIN", "STDOUT", "PROGRAM"]
  if target.isNone || target = some "PROGRAM" then
    let _ ← literalText
  let _ ← keyword "WITH"
  if ← seesSymbol "(" then
    let _ ← parenthesized (commaSeparated copyOption)
  let _ ← many (attempt olderCopyOption)
  if target = some "STDIN" then
    expectSymbol ";"
    modify dropRows

/-- A query whose rows are unloaded, behind the keyword. -/
def unloadRest (inner : Level) : Parser Unit := do
  let _ ← parenthesized inner.query
  expectKeyword "TO"
  let _ ← identifier
  withOptions inner

end QueryAdvisor.Sql.Grammar
