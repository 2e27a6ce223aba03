import QueryAdvisor.Sql.Grammar.Clause

/-!
# Functions, triggers and procedures

The body of a procedure is a list of statements, like a whole text: it ends at
the `END` behind a statement that no semicolon closes.
-/

namespace QueryAdvisor.Sql.Grammar

open QueryAdvisor.Sql.Parser

/-- Consumes semicolons; gives whether there are any. -/
def separators : Parser Bool := fun tokens =>
  .ok ((tokens.head?.map (Token.isSymbol ";")).getD false, tokens.dropWhile (Token.isSymbol ";"))

/-- The statements behind those already read (latest first); `isOpen` says
whether no semicolon has closed the last one yet. Every statement consumes a
token, so `bound` is the number of tokens. -/
def statementsFrom (one : Parser Statement) :
    (bound : Nat) → (isOpen : Bool) → (read : List Statement) → Parser (List Statement)
  | 0, _, _ => fail
  | bound + 1, isOpen, read => do
      let closed ← separators
      let isOpen := isOpen && !closed
      if ← atEnd then pure read.reverse
      else if isOpen then
        if ← sees "END" then pure read.reverse else fail
      else do
        let s ← one
        statementsFrom one bound true (s :: read)

/-- Statements with semicolons between them. -/
def statementList (one : Parser Statement) : Parser (List Statement) := do
  statementsFrom one ((← remaining) + 1) false []

/-- A parameter of a function: a type, which may have a name in front. -/
def functionParameter (inner : Level) : Parser Unit := do
  let _ ← oneOf? ["IN", "OUT", "INOUT"]
  let type ← dataType
  if type.kind = .custom then
    let _ ← dataType
  if ← keyword "DEFAULT" then
    let _ ← inner.expr
  else if ← symbol "=" then
    let _ ← inner.expr

/-- Parameters of a function between parentheses. -/
def functionParameters (inner : Level) : Parser Unit := do
  let _ ← parenthesized (commaSeparatedBefore ")" (functionParameter inner))

/-- A function by its name and the types of its parameters. -/
def functionReference (inner : Level) : Parser Unit := do
  let _ ← name
  if ← seesSymbol "(" then functionParameters inner

/-- The text of a function. -/
def functionText : Parser Unit := do
  match ← peek? with
  | some (.dollarQuoted _ _) =>
      let _ ← next?
  | _ =>
      let _ ← literalText

/-- A function behind its keyword. -/
def createFunctionRest (inner : Level) : Parser Unit := do
  let _ ← name
  functionParameters inner
  let _ ← after? "RETURNS" dataType
  inAnyOrder
    [do if ← clause ["AS"] functionText then pure true else clause ["RETURN"] inner.expr,
      clause ["LANGUAGE"] identifier,
      do pure (← oneOf? ["IMMUTABLE", "STABLE", "VOLATILE"]).isSome,
      nullBehavior,
      clause ["PARALLEL"] (expectOneOf ["UNSAFE", "RESTRICTED", "SAFE"])]
where
  /-- What the function does about null. -/
  nullBehavior : Parser Bool := do
    if ← keywords ["CALLED", "ON", "NULL", "INPUT"] then pure true
    else if ← keywords ["RETURNS", "NULL", "ON", "NULL", "INPUT"] then pure true
    else keyword "STRICT"

/-! ## Triggers -/

/-- When a trigger fires. -/
def triggerPeriod : Parser Unit := do
  if (← expectOneOf ["BEFORE", "AFTER", "INSTEAD"]) = "INSTEAD" then expectKeyword "OF"

/-- What a trigger fires on. -/
def triggerEvent : Parser Unit := do
  if (← expectOneOf ["INSERT", "UPDATE", "DELETE", "TRUNCATE"]) = "UPDATE" then
    let _ ← after? "OF" identifiers

/-- Further events, each behind `OR`. -/
def triggerEvents : Parser Unit := do
  triggerEvent
  let _ ← many (after? "OR" triggerEvent)

/-- A name for the rows before or after the change, if it is given. -/
def transitionName? : Parser (Option Unit) := do
  if (← oneOf? ["OLD", "NEW"]).isSome then
    if ← keyword "TABLE" then
      let _ ← keyword "AS"
      let _ ← name
      pure (some ())
    else pure none
  else pure none

/-- A trigger behind its keyword. -/
def createTriggerRest (inner : Level) : Parser Unit := do
  let _ ← name
  triggerPeriod
  triggerEvents
  expectKeyword "ON"
  let _ ← name
  if ← keyword "FROM" then skipName
  constraintCharacteristics
  if ← keyword "REFERENCING" then
    let _ ← many transitionName?
  expectKeyword "FOR"
  let _ ← keyword "EACH"
  let _ ← expectOneOf ["ROW", "STATEMENT"]
  let _ ← after? "WHEN" inner.expr
  expectKeyword "EXECUTE"
  let _ ← expectOneOf ["FUNCTION", "PROCEDURE"]
  functionReference inner

/-! ## Procedures -/

/-- Parameters of a procedure up to the closing parenthesis, which is consumed;
each may be left out. -/
def procedureParameters : (bound : Nat) → Parser Unit
  | 0 => fail
  | bound + 1 => do
      match ← peek? with
      | some (.word _ _) | some (.quotedWord _) =>
          let _ ← identifier
          let _ ← dataType
      | _ => pure ()
      let comma ← symbol ","
      if ← symbol ")" then pure ()
      else if comma then procedureParameters bound
      else fail

/-- A procedure behind its keyword. -/
def createProcedureRest (inner : Level) : Parser Unit := do
  let _ ← name
  if ← symbol "(" then
    if ← symbol ")" then pure () else procedureParameters ((← remaining) + 1)
  expectKeywords ["AS", "BEGIN"]
  let _ ← statementList inner.statement
  expectKeyword "END"

end QueryAdvisor.Sql.Grammar
