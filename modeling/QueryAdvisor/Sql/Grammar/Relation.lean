import QueryAdvisor.Sql.Grammar.Expression

/-!
# Relations and joins

A parenthesis in front of a relation starts a query or a nested join. The
query is tried first; what does not fit as a query is read again as relations
that are joined. A single relation between parentheses is not accepted.
-/

namespace QueryAdvisor.Sql.Grammar

open QueryAdvisor.Sql.Parser

/-- A query between parentheses, the first of which has been consumed. -/
def derivedTable (inner : Level) : Parser TableFactor := do
  let query ← inner.query
  expectSymbol ")"
  let label ← tableAlias?
  pure (.derived query label)

/-- A call of an aggregate that may have an alias. -/
def aliasedCall (inner : Level) : Parser Unit := do
  match ← next? with
  | some (.word text _) =>
      let _ ← call inner (operand inner) [⟨text, false⟩]
  | some (.quotedWord text) =>
      let _ ← call inner (operand inner) [⟨text, true⟩]
  | _ => fail
  if ← keyword "AS" then
    let _ ← identifier

/-- The values that become columns. -/
def pivotValues (inner : Level) : Parser Unit := do
  if ← keyword "ANY" then optionalOrder inner
  else if (← sees "SELECT") || (← sees "WITH") then
    let _ ← inner.query
  else
    let _ ← commaSeparated (do
      let _ ← inner.expr
      if ← keyword "AS" then
        let _ ← identifier)

/-- Rows turned into columns, behind the keyword. -/
def pivot (inner : Level) : Parser Unit := do
  parenthesized do
    let _ ← commaSeparated (aliasedCall inner)
    expectKeyword "FOR"
    let _ ← name
    expectKeyword "IN"
    parenthesized (pivotValues inner)
    if ← keywords ["DEFAULT", "ON", "NULL"] then
      let _ ← parenthesized inner.expr
  let _ ← tableAlias?

/-- Columns turned into rows, behind the keyword. -/
def unpivot : Parser Unit := do
  parenthesized do
    let _ ← identifier
    expectKeyword "FOR"
    let _ ← identifier
    expectKeyword "IN"
    let _ ← columnList
  let _ ← tableAlias?

/-- A relation with all that turns its rows or columns; once turned it has no
node. -/
def pivoted (inner : Level) (factor : TableFactor) : Parser TableFactor := do
  let turns ← many do
    match ← oneOf? ["PIVOT", "UNPIVOT"] with
    | none => pure none
    | some "PIVOT" => do
        pivot inner
        pure (some ())
    | some _ => do
        unpivot
        pure (some ())
  pure (if turns.isEmpty then factor else .other)

/-- The rest of an unnested array. -/
def unnest (inner : Level) : Parser TableFactor := do
  let _ ← parenthesized inner.exprs
  let _ ← keywords ["WITH", "ORDINALITY"]
  let _ ← tableAlias?
  if ← keyword "WITH" then
    if ← keyword "OFFSET" then
      let _ ← alias? neverColumnAlias
  pure .other

/-- What a column of a JSON table is when there is no value, or a wrong one. -/
def jsonColumnFallback : Parser (Option Unit) := do
  match ← oneOf? ["NULL", "ERROR", "DEFAULT"] with
  | none => pure none
  | some k => do
      if k = "DEFAULT" then
        let _ ← literal
      expectKeyword "ON"
      let _ ← expectOneOf ["EMPTY", "ERROR"]
      pure (some ())

/-- A column of a JSON table. Nested columns consume tokens first, so `bound` is
the number of tokens. -/
def jsonColumn : (bound : Nat) → Parser Unit
  | 0 => fail
  | bound + 1 => do
      if ← keyword "NESTED" then
        let _ ← keyword "PATH"
        let _ ← literal
        expectKeyword "COLUMNS"
        let _ ← parenthesized (commaSeparated (jsonColumn bound))
      else do
        let _ ← identifier
        if ← keyword "FOR" then expectKeyword "ORDINALITY"
        else do
          let _ ← dataType
          let _ ← keyword "EXISTS"
          expectKeyword "PATH"
          let _ ← literal
          let _ ← many jsonColumnFallback

/-- The rest of a JSON table behind its opening parenthesis. -/
def jsonTable (inner : Level) : Parser TableFactor := do
  let _ ← inner.expr
  expectSymbol ","
  let _ ← literal
  expectKeyword "COLUMNS"
  let bound := (← remaining) + 1
  let _ ← parenthesized (commaSeparated (jsonColumn bound))
  expectSymbol ")"
  let _ ← tableAlias?
  pure .other

/-- Arguments between parentheses, the first of which has been consumed. -/
def tableArguments (inner : Level) : Parser Unit := do
  if ← symbol ")" then pure ()
  else do
    let _ ← commaSeparated (argument inner)
    expectSymbol ")"

/-- A relation behind `LATERAL`. -/
def lateral (inner : Level) : Parser TableFactor := do
  if ← symbol "(" then derivedTable inner
  else do
    let _ ← name
    expectSymbol "("
    tableArguments inner
    let _ ← tableAlias?
    pure .other

/-- Hints behind a table, if there are any. -/
def optionalHints (inner : Level) : Parser Unit := do
  if ← sees "WITH" then
    if ((← peekAt? 1).map (Token.isSymbol "(")).getD false then
      expectKeyword "WITH"
      let _ ← parenthesized inner.exprs

/-- A table by its name. -/
def namedTable (inner : Level) : Parser TableFactor := do
  let parts ← name
  if ← symbol "(" then tableArguments inner
  let _ ← keywords ["WITH", "ORDINALITY"]
  let label ← tableAlias?
  optionalHints inner
  pivoted inner (.table parts label)

/-- What a join is subject to. -/
def joinConstraint (inner : Level) (natural : Bool) : Parser (Option Expr) := do
  if natural then pure none
  else if ← keyword "ON" then some <$> inner.expr
  else if ← keyword "USING" then do
    let _ ← columnList
    pure none
  else pure none

/-- The kind of join behind `LEFT` or `RIGHT`. -/
def sidedJoin (outer : JoinKind) : Parser JoinKind := do
  match ← expectOneOf ["OUTER", "SEMI", "ANTI", "JOIN"] with
  | "JOIN" => pure outer
  | "OUTER" => do
      expectKeyword "JOIN"
      pure outer
  | _ => do
      expectKeyword "JOIN"
      pure .other

/-- The kind of join that the next keywords name, if they name one. -/
def joinKind? (natural : Bool) : Parser (Option JoinKind) := do
  match ← oneOf? ["INNER", "JOIN", "LEFT", "RIGHT", "FULL", "OUTER"] with
  | some "JOIN" => pure (some .inner)
  | some "INNER" => do
      expectKeyword "JOIN"
      pure (some .inner)
  | some "LEFT" => some <$> sidedJoin .left
  | some "RIGHT" => some <$> sidedJoin .right
  | some "FULL" => do
      let _ ← keyword "OUTER"
      expectKeyword "JOIN"
      pure (some .full)
  | some _ => fail
  | none => if natural then fail else pure none

/-- The next relation that is joined, if there is one. -/
def join? (inner : Level) (factor : Parser TableFactor) : Parser (Option Join) := do
  let _ ← keyword "GLOBAL"
  if ← keyword "CROSS" then
    let _ ← expectOneOf ["JOIN", "APPLY"]
    let relation ← factor
    pure (some (.mk .other relation none))
  else if ← keywords ["OUTER", "APPLY"] then
    let relation ← factor
    pure (some (.mk .other relation none))
  else if ← keyword "ASOF" then
    expectKeyword "JOIN"
    let relation ← factor
    expectKeyword "MATCH_CONDITION"
    let _ ← parenthesized inner.expr
    let _ ← joinConstraint inner false
    pure (some (.mk .other relation none))
  else do
    let natural ← keyword "NATURAL"
    match ← joinKind? natural with
    | none => pure none
    | some kind => do
        let relation ← factor
        let condition ← joinConstraint inner natural
        pure (some (.mk kind relation condition))

/-- A relation and what is joined to it. -/
def fromItemWith (inner : Level) (factor : Parser TableFactor) : Parser FromItem := do
  let relation ← factor
  let joins ← many (join? inner factor)
  pure (.mk relation joins)

/-- Relations that are joined, between parentheses, the first of which has been
consumed. -/
def nestedJoin (inner : Level) (factor : Parser TableFactor) : Parser TableFactor := do
  let item ← fromItemWith inner factor
  match item with
  | .mk (.nestedJoin _) [] => pure ()
  | .mk _ [] => fail
  | _ => pure ()
  expectSymbol ")"
  let _ ← tableAlias?
  pure (.nestedJoin item)

/-- A relation. Nested joins consume a token first, so `bound` is the number of
tokens. -/
def tableFactorWithin (inner : Level) : (bound : Nat) → Parser TableFactor
  | 0 => fail
  | bound + 1 => do
      if ← keyword "LATERAL" then lateral inner
      else if ← keyword "TABLE" then
        let _ ← parenthesized inner.expr
        let _ ← tableAlias?
        pure .other
      else if ← symbol "(" then
        match ← attempt (derivedTable inner) with
        | some factor => pivoted inner factor
        | none => nestedJoin inner (tableFactorWithin inner bound)
      else if ← keyword "UNNEST" then unnest inner
      else if ← startsJsonTable then jsonTable inner
      else namedTable inner
where
  /-- Consumes the start of a JSON table. -/
  startsJsonTable : Parser Bool := do
    if ← sees "JSON_TABLE" then
      if ((← peekAt? 1).map (Token.isSymbol "(")).getD false then
        let _ ← next?
        symbol "("
      else pure false
    else pure false

/-- A relation. -/
def tableFactor (inner : Level) : Parser TableFactor := do
  tableFactorWithin inner ((← remaining) + 1)

/-- An item of a from clause. -/
def fromItem (inner : Level) : Parser FromItem :=
  fromItemWith inner (tableFactor inner)

end QueryAdvisor.Sql.Grammar
