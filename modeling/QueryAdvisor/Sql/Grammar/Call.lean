import QueryAdvisor.Sql.Grammar.Level

/-!
# Function calls

Of a call the name and the arguments are kept. Sort orders, filters and
windows are read and dropped.
-/

namespace QueryAdvisor.Sql.Grammar

open QueryAdvisor.Sql.Parser

/-- What stands where a star may stand. -/
inductive Starred where
  | star
  | qualifiedStar (parts : List Ident)
  | value (value : Expr)

/-- The parts behind the first of a name that ends in a star: nothing when it
ends otherwise. -/
def starredParts : (bound : Nat) → (read : List Ident) → Parser (Option (List Ident))
  | 0, _ => fail
  | bound + 1, read => do
      if ← symbol "." then
        match ← next? with
        | some (.word text _) => starredParts bound (⟨text, false⟩ :: read)
        | some (.quotedWord text) | some (.singleQuoted text) =>
            starredParts bound (⟨text, true⟩ :: read)
        | some (.symbol "*") => pure (some read.reverse)
        | _ => fail
      else pure none

/-- A star, a name that ends in a star, or an expression. -/
def starred (inner : Level) : Parser Starred := do
  let start ← get
  match ← next? with
  | some (.symbol "*") => pure .star
  | some (.word text _) => qualified start ⟨text, false⟩
  | some (.quotedWord text) | some (.singleQuoted text) => qualified start ⟨text, true⟩
  | _ => do
      set start
      .value <$> inner.expr
where
  /-- Goes on behind the first part of a name. -/
  qualified (start : List Token) (first : Ident) : Parser Starred := do
    match ← starredParts ((← remaining) + 1) [first] with
    | some parts => pure (.qualifiedStar parts)
    | none => do
        set start
        .value <$> inner.expr

/-- An argument of a call. -/
def argument (inner : Level) : Parser Arg := do
  let named := ((← peekAt? 1).map (Token.isSymbol "=>")).getD false
  if named then
    let name ← identifier
    expectSymbol "=>"
    match ← starred inner with
    | .value e => pure (.named name e)
    | _ => pure (.namedStar name)
  else
    match ← starred inner with
    | .star => pure .star
    | .qualifiedStar parts => pure (.qualifiedStar parts)
    | .value e => pure (.positional e)

/-- An expression to sort by. -/
def orderItem (inner : Level) : Parser Unit := do
  let _ ← inner.expr
  let _ ← oneOf? ["ASC", "DESC"]
  if ← keywords ["NULLS", "FIRST"] then pure ()
  else
    let _ ← keywords ["NULLS", "LAST"]

/-- Expressions to sort by. -/
def orderItems (inner : Level) : Parser Unit := do
  let _ ← commaSeparated (orderItem inner)

/-- A sort order, if there is one. -/
def optionalOrder (inner : Level) : Parser Unit := do
  if ← keywords ["ORDER", "BY"] then orderItems inner

/-- What to do when a collected text grows too long. -/
def optionalOverflow (inner : Level) : Parser Unit := do
  if ← keywords ["ON", "OVERFLOW"] then
    if ← keyword "ERROR" then pure ()
    else do
      expectKeyword "TRUNCATE"
      match ← peek? with
      | some (.word _ "WITH") | some (.word _ "WITHOUT") => pure ()
      | some (.singleQuoted _) | some (.escaped _) | some (.unicode _) | some (.national _)
      | some (.hex _) =>
          let _ ← inner.expr
      | _ => fail
      let _ ← expectOneOf ["WITH", "WITHOUT"]
      expectKeyword "COUNT"

/-- The arguments of a call whose opening parenthesis has been consumed. -/
def arguments (inner : Level) : Parser (List Arg) := do
  if ← symbol ")" then pure []
  else do
    let all ← keyword "ALL"
    let distinct ← keyword "DISTINCT"
    if all && distinct then fail
    else do
      let args ← commaSeparated (argument inner)
      optionalOrder inner
      let _ ← after? "LIMIT" inner.expr
      optionalOverflow inner
      expectSymbol ")"
      pure args

/-- A part of a date or a time. -/
def dateTimeField : Parser String := do
  match ← next? with
  | some (.word _ k) => pure k
  | some (.quotedWord _) | some (.singleQuoted _) => pure ""
  | _ => fail

/-- Words behind an interval that name its unit. -/
def temporalUnits : List String :=
  ["YEAR", "MONTH", "WEEK", "DAY", "HOUR", "MINUTE", "SECOND", "CENTURY", "DECADE", "DOW", "DOY",
    "EPOCH", "ISODOW", "ISOYEAR", "JULIAN", "MICROSECOND", "MICROSECONDS", "MILLENIUM",
    "MILLENNIUM", "MILLISECOND", "MILLISECONDS", "NANOSECOND", "NANOSECONDS", "QUARTER",
    "TIMEZONE", "TIMEZONE_HOUR", "TIMEZONE_MINUTE"]

/-- An interval behind its keyword; its value is a single operand. -/
def interval (operand : Parser Expr) : Parser Expr := do
  let value ← operand
  let unit ← oneOf? temporalUnits
  if unit = some "SECOND" then
    let _ ← DataType.optionalPrecisionScale
  else do
    let _ ← DataType.optionalPrecision
    if ← keyword "TO" then
      let last ← dateTimeField
      if last = "SECOND" then
        let _ ← DataType.optionalPrecision
  pure (.special .interval [value])

/-- One end of a window frame. -/
def frameBound (inner : Level) (operand : Parser Expr) : Parser Unit := do
  if ← keywords ["CURRENT", "ROW"] then pure ()
  else do
    if ← keyword "UNBOUNDED" then pure ()
    else
      match ← peek? with
      | some (.singleQuoted _) =>
          let _ ← interval operand
      | _ =>
          let _ ← inner.expr
    let _ ← expectOneOf ["PRECEDING", "FOLLOWING"]

/-- The frame of a window. -/
def frame (inner : Level) (operand : Parser Expr) : Parser Unit := do
  let _ ← expectOneOf ["ROWS", "RANGE", "GROUPS"]
  if ← keyword "BETWEEN" then
    frameBound inner operand
    expectKeyword "AND"
    frameBound inner operand
  else frameBound inner operand

/-- A window behind its opening parenthesis. -/
def windowSpec (inner : Level) (operand : Parser Expr) : Parser Unit := do
  match ← peek? with
  | some (.word _ k) =>
      if allKeywords.contains k then pure ()
      else
        let _ ← identifier
  | some (.quotedWord _) =>
      let _ ← identifier
  | _ => pure ()
  if ← keywords ["PARTITION", "BY"] then
    let _ ← inner.exprs
  optionalOrder inner
  if ← symbol ")" then pure ()
  else do
    frame inner operand
    expectSymbol ")"

/-- What may follow the arguments of a call. -/
def callSuffix (inner : Level) (operand : Parser Expr) : Parser Unit := do
  if ← keywords ["WITHIN", "GROUP"] then
    parenthesized do
      expectKeywords ["ORDER", "BY"]
      orderItems inner
  if ← keyword "FILTER" then
    if ← symbol "(" then
      if ← keyword "WHERE" then
        let _ ← inner.expr
        expectSymbol ")"
  if (← oneOf? ["RESPECT", "IGNORE"]).isSome then expectKeyword "NULLS"
  if ← keyword "OVER" then
    if ← symbol "(" then windowSpec inner operand
    else
      let _ ← identifier

/-- A call behind the name of the function. -/
def call (inner : Level) (operand : Parser Expr) (name : List Ident) : Parser Expr := do
  expectSymbol "("
  let args ← arguments inner
  callSuffix inner operand
  pure (.call name args)

end QueryAdvisor.Sql.Grammar
