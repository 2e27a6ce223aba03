import QueryAdvisor.Sql.Grammar.Clause

/-!
# Statements about a session

Cursors, prepared statements, notifications, and what a session shows.
-/

namespace QueryAdvisor.Sql.Grammar

open QueryAdvisor.Sql.Parser

/-! ## Cursors -/

/-- A cursor behind the keyword of its declaration. -/
def declareRest (inner : Level) : Parser Unit := do
  let _ ← identifier
  let _ ← keyword "BINARY"
  let _ ← oneOf? ["INSENSITIVE", "ASENSITIVE"]
  if ← keyword "SCROLL" then pure ()
  else
    let _ ← keywords ["NO", "SCROLL"]
  expectKeyword "CURSOR"
  if (← oneOf? ["WITH", "WITHOUT"]).isSome then expectKeyword "HOLD"
  expectKeyword "FOR"
  let _ ← inner.query

/-- How far and in which direction a cursor goes. -/
def fetchDirection : Parser Unit := do
  match ← oneOf? ["NEXT", "PRIOR", "FIRST", "LAST", "ALL", "FORWARD", "BACKWARD", "ABSOLUTE",
      "RELATIVE"] with
  | some "FORWARD" | some "BACKWARD" =>
      if ← keyword "ALL" then pure () else unsignedNumber
  | some "ABSOLUTE" | some "RELATIVE" | none => unsignedNumber
  | some _ => pure ()

/-- Rows from a cursor, behind the keyword. -/
def fetchRest : Parser Unit := do
  fetchDirection
  let _ ← expectOneOf ["FROM", "IN"]
  let _ ← identifier
  let _ ← after? "INTO" name

/-- The end of a cursor, behind the keyword. -/
def closeRest : Parser Unit := do
  if ← keyword "ALL" then pure ()
  else
    let _ ← identifier

/-! ## Prepared statements and calls -/

/-- A statement to prepare, behind the keyword. -/
def prepareRest (inner : Level) : Parser Unit := do
  let _ ← identifier
  if ← seesSymbol "(" then
    let _ ← parenthesized (commaSeparated dataType)
  expectKeyword "AS"
  let _ ← inner.statement

/-- Whether a list of values without parentheses is empty. -/
def seesNoValues : Parser Bool := do
  if ← atEnd then pure true
  else if ← seesSymbol ";" then pure true
  else sees "USING"

/-- A prepared statement to run, behind the keyword. -/
def executeRest (inner : Level) : Parser Unit := do
  let _ ← name
  if ← seesSymbol "(" then
    let _ ← parenthesized (commaSeparatedBefore ")" inner.expr)
  else if ← seesNoValues then pure ()
  else
    let _ ← inner.exprs
  let _ ← after? "USING" inner.exprs

/-- A prepared statement to forget, behind the keyword. -/
def deallocateRest : Parser Unit := do
  let _ ← keyword "PREPARE"
  let _ ← identifier

/-- A procedure to call, behind the keyword. -/
def callRest (inner : Level) : Parser Unit := do
  let procedure ← name
  if ← seesSymbol "(" then
    let _ ← call inner (operand inner) procedure

/-! ## Notifications and checks -/

/-- A notification behind its keyword. -/
def notifyRest : Parser Unit := do
  let _ ← identifier
  if ← symbol "," then
    let _ ← literalText

/-- A condition to check, behind the keyword. -/
def assertRest (inner : Level) : Parser Unit := do
  let _ ← inner.expr
  let _ ← after? "AS" inner.expr

/-- What a session forgets, behind the keyword. -/
def discardRest : Parser Unit := do
  let _ ← expectOneOf ["ALL", "PLANS", "SEQUENCES", "TEMP", "TEMPORARY"]

/-- A connection or a query to end, behind the keyword. -/
def killRest : Parser Unit := do
  let _ ← oneOf? ["CONNECTION", "QUERY"]
  let _ ← DataType.uint

/-- The value of a pragma. -/
def pragmaValue : Parser Unit := do
  match ← literal with
  | .singleQuoted _ | .number _ | .placeholder _ => pure ()
  | _ => fail

/-- A pragma behind its keyword. -/
def pragmaRest : Parser Unit := do
  let _ ← name
  if ← seesSymbol "(" then parenthesized pragmaValue
  else if ← symbol "=" then pragmaValue

/-! ## What is shown -/

/-- Which of the things are shown. -/
def showFilter (inner : Level) : Parser Unit := do
  if (← oneOf? ["LIKE", "ILIKE"]).isSome then
    let _ ← literalText
  else if ← keyword "WHERE" then
    let _ ← inner.expr
  else
    let _ ← attempt literalText

/-- Where the things that are shown are, if it is said. -/
def optionalPlace : Parser Unit := do
  if (← oneOf? ["FROM", "IN"]).isSome then
    let _ ← identifier

/-- A setting to show: everything up to an equals sign. -/
def showSetting : Parser Unit := fun tokens =>
  .ok ((), tokens.dropWhile fun token => !token.isSymbol "=")

/-- What is shown about the server, behind the keyword. -/
def showServer (inner : Level) : Parser Unit := do
  if ← keyword "CREATE" then
    let _ ← expectOneOf ["TABLE", "TRIGGER", "FUNCTION", "PROCEDURE", "EVENT", "VIEW"]
    let _ ← name
  else if ← keyword "COLLATION" then showFilter inner
  else do
    let _ ← keyword "VARIABLES"
    let _ ← keyword "STATUS"
    if (← oneOf? ["DATABASES", "SCHEMAS"]).isSome then showFilter inner else showSetting

/-- What is shown, behind the keyword. -/
def showRest (inner : Level) : Parser Unit := do
  let extended ← keyword "EXTENDED"
  let full ← keyword "FULL"
  let _ ← keyword "SESSION"
  let _ ← keyword "GLOBAL"
  if (← oneOf? ["COLUMNS", "FIELDS"]).isSome then
    let _ ← expectOneOf ["FROM", "IN"]
    let _ ← name
    optionalPlace
    showFilter inner
  else if ← keyword "TABLES" then
    optionalPlace
    showFilter inner
  else if ← keywords ["MATERIALIZED", "VIEWS"] then
    optionalPlace
    showFilter inner
  else if ← keyword "VIEWS" then
    optionalPlace
    showFilter inner
  else if ← keyword "FUNCTIONS" then showFilter inner
  else if extended || full then fail
  else showServer inner

end QueryAdvisor.Sql.Grammar
