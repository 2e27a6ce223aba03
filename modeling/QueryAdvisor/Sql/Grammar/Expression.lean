import QueryAdvisor.Sql.Grammar.Call

/-!
# Expressions

An expression is an operand followed by operators, each with a binding power.
`operations` goes on as long as the next operator binds tighter than the
power asked for, so operators of equal power associate to the left. The right
operand of an operator, like everything between parentheses, is read one
level further inside.
-/

namespace QueryAdvisor.Sql.Grammar

open QueryAdvisor.Sql.Parser

/-- Binding powers, from loose to tight. -/
def powerOr : Nat := 10
def powerAnd : Nat := 20
def powerNot : Nat := 30
def powerIs : Nat := 40
def powerEqual : Nat := 50
def powerLike : Nat := 60
def powerOther : Nat := 70
def powerXor : Nat := 75
def powerSum : Nat := 80
def powerProduct : Nat := 90
def powerCaret : Nat := 100
def powerTimeZone : Nat := 110
def powerCollate : Nat := 120
def powerBracket : Nat := 130
def powerCast : Nat := 140

/-- Keywords that test an operand against a pattern, a list or a range. -/
def testKeywords : List String :=
  ["IN", "BETWEEN", "LIKE", "ILIKE", "RLIKE", "REGEXP", "SIMILAR"]

/-- How tight a symbol binds as an operator; zero when it is none. -/
def symbolPower (s : String) : Nat :=
  if ["=", "==", "<", "<=", "<>", ">", ">=", "~", "~*", "!~", "!~*", "~~", "~~*", "!~~", "!~~*",
      "<=>"].contains s then powerEqual
  else if ["->", "->>", "#>", "#>>", "@>", "<@", "#-", "@?", "@@", "?", "?&", "?|", "!", "&&",
      "^@", "||", "#", ">>", "<<", "|", "&"].contains s then powerOther
  else if s = "+" || s = "-" then powerSum
  else if s = "*" || s = "/" || s = "%" then powerProduct
  else if s = "^" then powerCaret
  else if s = "[" then powerBracket
  else if s = "::" then powerCast
  else 0

/-- How tight a keyword binds as an operator; zero when it is none. Some depend
on what follows. -/
def keywordPower (k : String) (rest : List Token) : Nat :=
  if k = "OR" then powerOr
  else if k = "AND" then powerAnd
  else if k = "XOR" then powerXor
  else if k = "IS" then powerIs
  else if k = "AT" then
    if (dropKeywords ["TIME", "ZONE"] rest).isSome then powerTimeZone else 0
  else if k = "NOT" then
    match rest with
    | .word _ k :: _ => if testKeywords.contains k then powerLike else 0
    | _ => 0
  else if testKeywords.contains k || k = "OPERATOR" then powerLike
  else if k = "DIV" then powerProduct
  else if k = "COLLATE" then powerCollate
  else 0

/-- How tight the operator in front binds; zero when there is none. -/
def nextPower : List Token → Nat
  | .word _ k :: rest => keywordPower k rest
  | .symbol s :: _ => symbolPower s
  | .custom _ :: _ => powerOther
  | _ => 0

/-! ## Operands -/

/-- The branches of a case expression behind those already read (latest first). -/
def caseBranches (inner : Level) : (bound : Nat) → (read : List Expr) → Parser (List Expr)
  | 0, _ => fail
  | bound + 1, read => do
      let condition ← inner.expr
      expectKeyword "THEN"
      let result ← inner.expr
      if ← keyword "WHEN" then caseBranches inner bound (result :: condition :: read)
      else pure (result :: condition :: read).reverse

/-- A case expression behind its keyword. -/
def caseExpr (inner : Level) : Parser Expr := do
  let subject ←
    if ← keyword "WHEN" then pure none
    else do
      let e ← inner.expr
      expectKeyword "WHEN"
      pure (some e)
  let branches ← caseBranches inner ((← remaining) + 1) []
  let otherwise ← after? "ELSE" inner.expr
  expectKeyword "END"
  pure (.special .caseWhen (subject.toList ++ branches ++ otherwise.toList))

/-- A conversion behind its keyword. -/
def convertExpr (inner : Level) : Parser Expr :=
  parenthesized do
    let e ← inner.expr
    if ← keyword "USING" then
      let _ ← name
    else do
      expectSymbol ","
      let _ ← dataType
      if ← keywords ["CHARACTER", "SET"] then
        let _ ← name
    pure (.special .convert [e])

/-- A cast behind its keyword. -/
def castExpr (inner : Level) : Parser Expr :=
  parenthesized do
    let e ← inner.expr
    expectKeyword "AS"
    let type ← dataType
    if ← keyword "FORMAT" then
      let _ ← literal
      if ← keywords ["AT", "TIME", "ZONE"] then
        let _ ← literal
    pure (.cast e type.text)

/-- A part of a time, behind its keyword. -/
def extractExpr (inner : Level) : Parser Expr :=
  parenthesized do
    let _ ← dateTimeField
    expectKeyword "FROM"
    let e ← inner.expr
    pure (.special .extract [e])

/-- A rounding behind its keyword. -/
def roundExpr (inner : Level) (form : SpecialForm) : Parser Expr :=
  parenthesized do
    let e ← inner.expr
    if ← keyword "TO" then
      let _ ← dateTimeField
    else if ← symbol "," then
      match ← literal with
      | .number _ => pure ()
      | _ => fail
    pure (.special form [e])

/-- The place of a text in another. -/
def positionExpr (inner : Level) : Parser Expr :=
  parenthesized do
    let e ← inner.operation powerLike
    expectKeyword "IN"
    let subject ← inner.expr
    pure (.special .position [e, subject])

/-- A part of a text, behind its keyword. -/
def substringExpr (inner : Level) : Parser Expr :=
  parenthesized do
    let e ← inner.expr
    let start ← do
      if ← symbol "," then some <$> inner.expr else after? "FROM" inner.expr
    let length ← do
      if ← keyword "FOR" then some <$> inner.expr
      else if ← symbol "," then some <$> inner.expr
      else pure none
    pure (.special .substring (e :: start.toList ++ length.toList))

/-- A replacement of a part of a text, behind its keyword. -/
def overlayExpr (inner : Level) : Parser Expr :=
  parenthesized do
    let e ← inner.expr
    expectKeyword "PLACING"
    let replacement ← inner.expr
    expectKeyword "FROM"
    let start ← inner.expr
    let length ← after? "FOR" inner.expr
    pure (.special .overlay (e :: replacement :: start :: length.toList))

/-- A text without characters at its ends, behind its keyword. -/
def trimExpr (inner : Level) : Parser Expr :=
  parenthesized do
    let _ ← oneOf? ["BOTH", "LEADING", "TRAILING"]
    let e ← inner.expr
    let subject ← after? "FROM" inner.expr
    if subject.isNone then
      let _ ← symbol ","
    pure (.special .trim (e :: subject.toList))

/-- Expressions up to a closing bracket, which is consumed. -/
def arrayExpr (inner : Level) : Parser Expr := do
  if ← symbol "]" then pure (.special .array [])
  else do
    let items ← inner.exprs
    expectSymbol "]"
    pure (.special .array items)

/-- What has to follow `EXISTS`. -/
def existsExpr (inner : Level) (negated : Bool) : Parser Expr := do
  let query ← parenthesized inner.query
  pure (.exists negated query)

/-- What has to follow `NOT`. -/
def notExpr (inner : Level) : Parser Expr := do
  if ← keyword "EXISTS" then existsExpr inner true
  else .unary .not <$> inner.operation powerNot

/-- The parts of a dotted name behind those already read (latest first), and
whether it ends in a star. -/
def dottedParts : (bound : Nat) → (read : List Ident) → Parser (List Ident × Bool)
  | 0, _ => fail
  | bound + 1, read => do
      if ← symbol "." then
        match ← next? with
        | some (.word text _) => dottedParts bound (⟨text, false⟩ :: read)
        | some (.quotedWord text) | some (.singleQuoted text) =>
            dottedParts bound (⟨text, true⟩ :: read)
        | some (.symbol "*") => pure (read.reverse, true)
        | _ => fail
      else pure (read.reverse, false)

/-- A word that starts no special form: a call, a dotted name or a column. -/
def plainWord (inner : Level) (operand : Parser Expr) (word : Ident) : Parser Expr := do
  match ← peek? with
  | some (.symbol "(") | some (.symbol ".") => do
      let (parts, star) ← dottedParts ((← remaining) + 1) [word]
      if star then pure (.special .wildcard [])
      else if ← seesSymbol "(" then call inner operand parts
      else pure (.compound parts)
  | some (.singleQuoted s) =>
      if word.text.toList.head? = some '_' then do
        let _ ← next?
        pure (.special .introduced [.literal (.singleQuoted s)])
      else pure (.identifier word)
  | some (.hex s) =>
      if word.text.toList.head? = some '_' then do
        let _ ← next?
        pure (.special .introduced [.literal (.hex s)])
      else pure (.identifier word)
  | _ => pure (.identifier word)

/-- A function of the time, which may have arguments. -/
def timeFunction (inner : Level) (word : Ident) : Parser Expr := do
  if ← symbol "(" then .call [word] <$> arguments inner else pure (.call [word] [])

/-- An operand that starts with a word that is not quoted. -/
def wordOperand (inner : Level) (operand : Parser Expr) (text k : String) : Parser Expr := do
  let word : Ident := ⟨text, false⟩
  if k = "TRUE" then pure (.literal (.bool true))
  else if k = "FALSE" then pure (.literal (.bool false))
  else if k = "NULL" then pure (.literal .null)
  else if ["CURRENT_CATALOG", "CURRENT_USER", "SESSION_USER", "USER"].contains k then
    pure (.call [word] [])
  else if ["CURRENT_TIMESTAMP", "CURRENT_TIME", "CURRENT_DATE", "LOCALTIME",
      "LOCALTIMESTAMP"].contains k then timeFunction inner word
  else if k = "CASE" then caseExpr inner
  else if k = "CONVERT" then convertExpr inner
  else if k = "CAST" || k = "TRY_CAST" || k = "SAFE_CAST" then castExpr inner
  else if k = "EXISTS" then existsExpr inner false
  else if k = "EXTRACT" then extractExpr inner
  else if k = "CEIL" then roundExpr inner .ceil
  else if k = "FLOOR" then roundExpr inner .floor
  else if k = "SUBSTRING" then substringExpr inner
  else if k = "OVERLAY" then overlayExpr inner
  else if k = "TRIM" then trimExpr inner
  else if k = "INTERVAL" then interval operand
  else if k = "NOT" then notExpr inner
  else if k = "POSITION" then do
    if ← seesSymbol "(" then
      match ← attempt (positionExpr inner) with
      | some e => pure e
      | none => call inner operand [word]
    else plainWord inner operand word
  else if k = "ARRAY" then do
    if ← symbol "[" then arrayExpr inner
    else if ← seesSymbol "(" then do
      let _ ← parenthesized inner.query
      pure (.call [word] [])
    else plainWord inner operand word
  else plainWord inner operand word

/-- What stands between parentheses, the first of which has been consumed. -/
def groupOperand (inner : Level) : Parser Expr := do
  let e ←
    if (← sees "SELECT") || (← sees "WITH") then .subquery <$> inner.query
    else do
      match ← inner.exprs with
      | [e] => pure (.nested e)
      | items => pure (.special .tuple items)
  expectSymbol ")"
  if ← symbol "." then
    match ← next? with
    | some (.word _ _) | some (.quotedWord _) => pure (.special .compositeField [e])
    | _ => fail
  else pure e

/-- An operand that starts with a symbol. -/
def symbolOperand (inner : Level) (s : String) : Parser Expr := do
  if s = "(" then groupOperand inner
  else if s = "[" then arrayExpr inner
  else if s = "-" || s = "+" then .unary (.symbol s) <$> inner.operation powerProduct
  else if s = "!!" || s = "|/" || s = "||/" || s = "@" || s = "~" then
    .unary (.symbol s) <$> inner.operation powerSum
  else if s = ":" then .literal <$> markedPlaceholder ":"
  else fail

/-- An operand that is no typed literal. -/
def plainOperand (inner : Level) (operand : Parser Expr) : Parser Expr := do
  match ← next? with
  | some (.word text k) => wordOperand inner operand text k
  | some (.quotedWord text) => plainWord inner operand ⟨text, true⟩
  | some (.symbol s) => symbolOperand inner s
  | some token =>
      match literalOf? token with
      | some value => pure (.literal value)
      | none => fail
  | none => fail

/-- A type name followed by a text. -/
def typedLiteral (operand : Parser Expr) : Parser Expr := do
  let type ← dataType
  match type.kind with
  | .interval => interval operand
  | .custom => fail
  | .builtin => do
      let _ ← literalText
      pure (.special .typedLiteral [])

/-- An operand. Only intervals contain an operand at the same level, and they
consume a token first, so `bound` is the number of tokens. -/
def operandWithin (inner : Level) : (bound : Nat) → Parser Expr
  | 0 => fail
  | bound + 1 => do
      match ← attempt (typedLiteral (operandWithin inner bound)) with
      | some e => pure e
      | none => do
          let e ← plainOperand inner (operandWithin inner bound)
          if ← keyword "COLLATE" then
            let _ ← name
            pure (.special .collate [e])
          else pure e

/-- An operand. -/
def operand (inner : Level) : Parser Expr := do
  operandWithin inner ((← remaining) + 1)

/-! ## Operators -/

/-- The tokens of a named operator behind those already read (latest first). -/
def operatorTokens : (bound : Nat) → (read : List String) → Parser (List String)
  | 0, _ => fail
  | bound + 1, read => do
      let token := ((← next?).map Token.display).getD "EOF"
      if ← symbol "." then operatorTokens bound (token :: read)
      else pure (token :: read).reverse

/-- The rest of a named operator. -/
def namedOperator : Parser String := do
  let parts ← parenthesized (do operatorTokens ((← remaining) + 1) [])
  pure ("OPERATOR(" ++ String.intercalate "." parts ++ ")")

/-- The binary operator that a symbol is. -/
def symbolOperator? (s : String) : Option BinaryOp :=
  if s = "==" then some (.symbol "=")
  else if s = "::" || s = "[" || s = "!" then none
  else if symbolPower s = 0 then none
  else some (.symbol s)

/-- The binary operator that a consumed token starts. -/
def binaryOperator? : Token → Parser (Option BinaryOp)
  | .symbol s => pure (symbolOperator? s)
  | .custom s => pure (some (.symbol s))
  | .word _ k =>
      if k = "AND" then pure (some .and)
      else if k = "OR" then pure (some .or)
      else if k = "XOR" then pure (some (.symbol "XOR"))
      else if k = "OPERATOR" then do
        let s ← namedOperator
        pure (some (.symbol s))
      else pure none
  | _ => pure none

/-- Whether an operator compares, so that it may stand before `ANY` or `ALL`. -/
def isComparison (op : BinaryOp) : Bool :=
  ["=", "<>", "<", "<=", ">", ">="].any fun s => op == .symbol s

/-- The right side of an operator before `ANY` or `ALL`. -/
def quantifiedRight (inner : Level) (power : Nat) : Parser Expr := do
  let start ← get
  expectSymbol "("
  if (← sees "SELECT") || (← sees "WITH") then
    set start
    inner.operation power
  else do
    let e ← inner.operation power
    expectSymbol ")"
    pure e

/-- The right side of a binary operator. -/
def binaryRest (inner : Level) (power : Nat) (left : Expr) (op : BinaryOp) : Parser Expr := do
  if (← oneOf? ["ANY", "ALL", "SOME"]).isSome then
    let right ← quantifiedRight inner power
    if isComparison op then pure (.special .quantified [left, right]) else fail
  else do
    let right ← inner.operation power
    pure (.binary left op right)

/-- What follows `IS`. -/
def isRest (inner : Level) (left : Expr) : Parser Expr := do
  let negated ← keyword "NOT"
  if ← keyword "NULL" then pure (if negated then .isNotNull left else .isNull left)
  else if (← oneOf? ["TRUE", "FALSE", "UNKNOWN"]).isSome then pure (.special .truthTest [left])
  else do
    expectKeywords ["DISTINCT", "FROM"]
    let right ← inner.expr
    pure (.special .distinctFrom [left, right])

/-- What follows `IN`. -/
def inRest (inner : Level) (negated : Bool) (left : Expr) : Parser Expr := do
  if ← keyword "UNNEST" then
    let right ← parenthesized inner.expr
    pure (.special .inUnnest [left, right])
  else
    parenthesized do
      if (← sees "SELECT") || (← sees "WITH") then .inSubquery negated left <$> inner.query
      else .inList negated left <$> inner.exprs

/-- What follows `BETWEEN`. -/
def betweenRest (inner : Level) (negated : Bool) (left : Expr) : Parser Expr := do
  let low ← inner.operation powerLike
  expectKeyword "AND"
  let high ← inner.operation powerLike
  pure (.between negated left low high)

/-- The escape character of a pattern, if there is one. -/
def optionalEscape : Parser Unit := do
  let _ ← after? "ESCAPE" literalText

/-- A pattern behind `LIKE` or `ILIKE`. -/
def likePattern (inner : Level) : Parser Expr := do
  let _ ← keyword "ANY"
  let pattern ← inner.operation powerLike
  optionalEscape
  pure pattern

/-- What follows a left operand that is tested, behind any `NOT`. -/
def testRest (inner : Level) (negated : Bool) (left : Expr) : Parser Expr := do
  match ← expectOneOf testKeywords with
  | "IN" => inRest inner negated left
  | "BETWEEN" => betweenRest inner negated left
  | "LIKE" => .like negated left <$> likePattern inner
  | "ILIKE" => .ilike negated left <$> likePattern inner
  | "SIMILAR" => do
      expectKeyword "TO"
      let pattern ← inner.operation powerLike
      optionalEscape
      pure (.special .similarTo [left, pattern])
  | k => do
      if k = "REGEXP" then
        let _ ← keyword "RLIKE"
      let pattern ← inner.operation powerLike
      pure (.special .regexp [left, pattern])

/-- A subscript behind its opening bracket: an index, or bounds and a stride with
colons between them. -/
def subscriptRest (inner : Level) (left : Expr) : Parser Expr := do
  let lower ← if ← symbol ":" then pure none else some <$> inner.expr
  if ← symbol "]" then pure (.special .subscript (left :: lower.toList))
  else do
    if lower.isSome then expectSymbol ":"
    if ← symbol "]" then pure (.special .subscript (left :: lower.toList))
    else do
      let upper ← inner.expr
      let parts := left :: lower.toList ++ [upper]
      if ← symbol "]" then pure (.special .subscript parts)
      else do
        expectSymbol ":"
        if ← symbol "]" then pure (.special .subscript parts)
        else do
          let stride ← inner.expr
          expectSymbol "]"
          pure (.special .subscript (parts ++ [stride]))

/-- An operator that is not binary, with what follows it. -/
def otherRest (inner : Level) (power : Nat) (left : Expr) : Token → Parser Expr
  | .word _ k =>
      if k = "IS" then isRest inner left
      else if k = "AT" then do
        expectKeywords ["TIME", "ZONE"]
        let zone ← inner.operation power
        pure (.special .atTimeZone [left, zone])
      else fail
  | .symbol "::" => do
      let type ← dataType
      pure (.cast left type.text)
  | .symbol "!" => pure (.unary (.symbol "!") left)
  | .symbol "[" => subscriptRest inner left
  | _ => fail

/-- The next operator, of a given power, and what follows it. -/
def operatorRest (inner : Level) (power : Nat) (left : Expr) : Parser Expr := do
  if ← keyword "NOT" then testRest inner true left
  else
    match ← peek? with
    | none => fail
    | some (.word text k) =>
        if testKeywords.contains k then testRest inner false left
        else do
          let _ ← next?
          binaryOr (.word text k)
    | some token => do
        let _ ← next?
        binaryOr token
where
  /-- A binary operator, or one that is not. -/
  binaryOr (token : Token) : Parser Expr := do
    match ← binaryOperator? token with
    | some op => binaryRest inner power left op
    | none => otherRest inner power left token

/-- Goes on behind a left operand as long as the next operator binds tighter than
`power`. Every round consumes a token, so `bound` is the number of tokens. -/
def operations (inner : Level) (power : Nat) : (bound : Nat) → Expr → Parser Expr
  | 0, left => pure left
  | bound + 1, left => do
      let next := nextPower (← get)
      if next ≤ power then pure left
      else do
        let e ← operatorRest inner next left
        operations inner power bound e

/-- An expression whose operators bind tighter than `power`. -/
def operation (inner : Level) (power : Nat) : Parser Expr := do
  let left ← operand inner
  operations inner power ((← remaining) + 1) left

end QueryAdvisor.Sql.Grammar
