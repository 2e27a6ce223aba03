import QueryAdvisor.Sql.Grammar.Relation

/-!
# Queries

The body of a query is made of selects, value lists, tables and queries
between parentheses, combined by set operators; `INTERSECT` binds tighter than
`UNION` and `EXCEPT`, and all associate to the left. Named queries may stand
in front of it; sort order, limits and locks may follow it and are dropped.
-/

namespace QueryAdvisor.Sql.Grammar

open QueryAdvisor.Sql.Parser

/-- An item of a select list. -/
def selectItem (inner : Level) : Parser SelectItem := do
  match ← starred inner with
  | .star => pure .star
  | .qualifiedStar parts => pure (.qualifiedStar parts)
  | .value e => do
      if isBareFrom e then fail
      else
        match ← alias? neverColumnAlias with
        | some label => pure (.aliased e label)
        | none => pure (.plain e)
where
  /-- Whether the select list has in fact ended. -/
  isBareFrom : Expr → Bool
    | .identifier i => !i.quoted && i.name == "from"
    | _ => false

/-- Items of a select list. -/
def selectItems (inner : Level) : Parser (List SelectItem) :=
  commaSeparated (selectItem inner)

/-- Whether all rows are kept, or which. -/
def distinctClause (inner : Level) : Parser Unit := do
  let all ← keyword "ALL"
  if ← keyword "DISTINCT" then
    if all then fail
    else if ← keyword "ON" then
      expectSymbol "("
      if ← symbol ")" then pure ()
      else do
        let _ ← inner.exprs
        expectSymbol ")"

/-- A limit in front of the select list. -/
def topClause (inner : Level) : Parser Unit := do
  if ← keyword "TOP" then
    if ← seesSymbol "(" then
      let _ ← parenthesized inner.expr
    else
      let _ ← DataType.uint
    let _ ← keyword "PERCENT"
    let _ ← keywords ["WITH", "TIES"]

/-- A table that takes the result. -/
def intoClause : Parser Unit := do
  if ← keyword "INTO" then
    let _ ← oneOf? ["TEMP", "TEMPORARY"]
    let _ ← keyword "UNLOGGED"
    let _ ← keyword "TABLE"
    let _ ← name

/-- A lateral view, if there is one. -/
def lateralView? (inner : Level) : Parser (Option Unit) := do
  if ← keywords ["LATERAL", "VIEW"] then
    let _ ← keyword "OUTER"
    let _ ← inner.expr
    let _ ← name
    let _ ← commaSeparated (alias? ["WHERE", "GROUP", "CLUSTER", "HAVING", "LATERAL"])
    pure (some ())
  else pure none

/-- Expressions between parentheses, of which there may be none. -/
def exprTuple (inner : Level) : Parser Unit := do
  expectSymbol "("
  if ← symbol ")" then pure ()
  else do
    let _ ← inner.exprs
    expectSymbol ")"

/-- Expressions between parentheses, or a single one without. -/
def liftedTuple (inner : Level) : Parser Unit := do
  if ← seesSymbol "(" then exprTuple inner
  else
    let _ ← inner.expr

/-- What rows are grouped by. -/
def groupItem (inner : Level) : Parser Unit := do
  if ← keywords ["GROUPING", "SETS"] then
    let _ ← parenthesized (commaSeparated (exprTuple inner))
  else if (← oneOf? ["CUBE", "ROLLUP"]).isSome then
    let _ ← parenthesized (commaSeparated (liftedTuple inner))
  else if (← seesSymbol "(") && ((← peekAt? 1).map (Token.isSymbol ")")).getD false then
    expectSymbol "("
    expectSymbol ")"
  else
    let _ ← inner.expr

/-- A grouping, if there is one. -/
def groupClause (inner : Level) : Parser Unit := do
  if ← keywords ["GROUP", "BY"] then
    if ← keyword "ALL" then pure ()
    else
      let _ ← commaSeparated (groupItem inner)

/-- A clause of expressions behind two keywords, if it is there. -/
def optionalExprs (inner : Level) (ks : List String) : Parser Unit := do
  if ← keywords ks then
    let _ ← inner.exprs

/-- A window by its name. -/
def namedWindow (inner : Level) : Parser Unit := do
  let _ ← identifier
  expectKeyword "AS"
  expectSymbol "("
  windowSpec inner (operand inner)

def namedWindows (inner : Level) : Parser Unit := do
  let _ ← commaSeparated (namedWindow inner)

/-- Windows and a condition on them, in either order. -/
def windowClauses (inner : Level) : Parser Unit := do
  if ← keyword "WINDOW" then
    namedWindows inner
    let _ ← after? "QUALIFY" inner.expr
  else if ← keyword "QUALIFY" then
    let _ ← inner.expr
    if ← keyword "WINDOW" then namedWindows inner

/-- A select behind its keyword. -/
def select (inner : Level) : Parser SetExpr := do
  distinctClause inner
  topClause inner
  let items ← selectItems inner
  intoClause
  let sources ← do
    if ← keyword "FROM" then commaSeparated (fromItem inner) else pure []
  let _ ← many (lateralView? inner)
  let condition ← after? "WHERE" inner.expr
  groupClause inner
  optionalExprs inner ["CLUSTER", "BY"]
  optionalExprs inner ["DISTRIBUTE", "BY"]
  optionalExprs inner ["SORT", "BY"]
  let having ← after? "HAVING" inner.expr
  windowClauses inner
  pure (.select items sources condition having)

/-- A row of a value list. -/
def valuesRow (inner : Level) : Parser Unit := do
  let _ ← keyword "ROW"
  let _ ← parenthesized inner.exprs

/-- A table in place of a select: a name of one part is followed by two tokens
that do not count. -/
def tableBody : Parser SetExpr := do
  let first ← next?
  let second ← next?
  let third ← next?
  if second = some (.symbol ".") then
    if isWord first && isWord third then pure .table else fail
  else if isWord first then pure .table
  else fail
where
  /-- Whether a token is a word. -/
  isWord : Option Token → Bool
    | some (.word _ _) | some (.quotedWord _) => true
    | _ => false

/-- A body without set operators. -/
def simpleBody (inner : Level) : Parser SetExpr := do
  if ← keyword "SELECT" then select inner
  else if ← symbol "(" then do
    let query ← inner.query
    expectSymbol ")"
    pure (.query query)
  else if ← keyword "VALUES" then do
    let _ ← commaSeparated (valuesRow inner)
    pure .values
  else if ← keyword "TABLE" then tableBody
  else fail

/-- Whether duplicates are kept, and how columns are matched. -/
def setQuantifier : Parser Unit := do
  let _ ← oneOf? ["ALL", "DISTINCT"]
  let _ ← keywords ["BY", "NAME"]

/-- Combines bodies from left to right by some set operators, as long as one of
them comes next. -/
def combined (ops : List (String × SetOperator)) (body : Parser SetExpr) :
    (bound : Nat) → SetExpr → Parser SetExpr
  | 0, left => pure left
  | bound + 1, left => do
      match ← oneOf? (ops.map Prod.fst) with
      | none => pure left
      | some k => do
          setQuantifier
          let right ← body
          match ops.find? (·.1 = k) with
          | none => fail
          | some (_, op) => combined ops body bound (.combined op left right)

/-- Bodies combined by `INTERSECT`. -/
def intersection (inner : Level) : Parser SetExpr := do
  let left ← simpleBody inner
  combined [("INTERSECT", .intersect)] (simpleBody inner) ((← remaining) + 1) left

/-- The body of a query. -/
def body (inner : Level) : Parser SetExpr := do
  let left ← intersection inner
  combined [("UNION", .union), ("EXCEPT", .except)] (intersection inner) ((← remaining) + 1) left

/-- A named query. -/
def cte (inner : Level) : Parser Cte := do
  let name ← identifier
  if ← keyword "AS" then pure ()
  else do
    let _ ← columnList
    expectKeyword "AS"
  if ← keyword "MATERIALIZED" then pure ()
  else
    let _ ← keywords ["NOT", "MATERIALIZED"]
  let query ← parenthesized inner.query
  if ← keyword "FROM" then
    let _ ← identifier
  pure (.mk name query)

/-- A limit behind its keyword; gives whether there is one. -/
def limitRest (inner : Level) : Parser Bool := do
  if ← keyword "ALL" then pure false
  else do
    let _ ← inner.expr
    pure true

/-- An offset behind its keyword. -/
def offsetRest (inner : Level) : Parser Unit := do
  let _ ← inner.expr
  let _ ← oneOf? ["ROW", "ROWS"]

/-- Limit and offset, in either order. -/
def limitClauses (inner : Level) : Parser Unit := do
  let (limited, shifted) ← round false false
  let _ ← round limited shifted
where
  /-- A limit, then an offset, unless they have been given. -/
  round (limited shifted : Bool) : Parser (Bool × Bool) := do
    let limited ←
      if limited then pure true
      else if ← keyword "LIMIT" then limitRest inner
      else pure false
    let shifted ←
      if shifted then pure true
      else if ← keyword "OFFSET" then do
        offsetRest inner
        pure true
      else pure false
    pure (limited, shifted)

/-- A limit in the words of the standard. -/
def fetchClause : Parser Unit := do
  if ← keyword "FETCH" then
    let _ ← expectOneOf ["FIRST", "NEXT"]
    if (← oneOf? ["ROW", "ROWS"]).isSome then pure ()
    else do
      let _ ← literal
      let _ ← keyword "PERCENT"
      let _ ← expectOneOf ["ROW", "ROWS"]
    if ← keyword "ONLY" then pure () else expectKeywords ["WITH", "TIES"]

/-- A name between parentheses, if there is one. -/
def optionalLabel : Parser Unit := do
  if ← seesSymbol "(" then
    let _ ← parenthesized literalText

/-- An option of XML output, which may be left out. -/
def xmlOption : Parser Unit := do
  match ← oneOf? ["ELEMENTS", "BINARY", "ROOT", "TYPE"] with
  | some "BINARY" => expectKeyword "BASE64"
  | some "ROOT" =>
      let _ ← parenthesized literalText
  | _ => pure ()

/-- An option of JSON output, which may be left out. -/
def jsonOption : Parser Unit := do
  match ← oneOf? ["ROOT", "INCLUDE_NULL_VALUES", "WITHOUT_ARRAY_WRAPPER"] with
  | some "ROOT" =>
      let _ ← parenthesized literalText
  | _ => pure ()

/-- Options of an output format, each behind a comma. -/
def formatOptions (option : Parser Unit) : Parser Unit := do
  let _ ← many do
    if ← symbol "," then some <$> option else pure none

/-- What follows `FOR`; gives whether more such clauses may follow. -/
def forRest : Parser Bool := do
  match ← expectOneOf ["XML", "JSON", "BROWSE", "UPDATE", "SHARE"] with
  | "BROWSE" => pure false
  | "XML" => do
      match ← expectOneOf ["RAW", "AUTO", "EXPLICIT", "PATH"] with
      | "AUTO" | "EXPLICIT" => pure ()
      | _ => optionalLabel
      formatOptions xmlOption
      pure false
  | "JSON" => do
      let _ ← expectOneOf ["AUTO", "PATH"]
      formatOptions jsonOption
      pure false
  | _ => do
      let _ ← after? "OF" name
      if ← keyword "NOWAIT" then pure ()
      else
        let _ ← keywords ["SKIP", "LOCKED"]
      pure true

/-- Locks and output formats at the end of a query. -/
def forClauses : (bound : Nat) → Parser Unit
  | 0 => pure ()
  | bound + 1 => do
      if ← keyword "FOR" then
        if ← forRest then forClauses bound

/-- What may follow the body of a query. -/
def queryTail (inner : Level) : Parser Unit := do
  optionalOrder inner
  limitClauses inner
  fetchClause
  forClauses ((← remaining) + 1)

end QueryAdvisor.Sql.Grammar
