import QueryAdvisor.Sql.Grammar.Clause

/-!
# Columns and constraints of tables

A column is a name and a type with properties behind them. Some words are
accepted behind the last property although they say nothing.
-/

namespace QueryAdvisor.Sql.Grammar

open QueryAdvisor.Sql.Parser

/-- What happens to rows that refer to one that goes. -/
def referentialAction : Parser Unit := do
  match ← expectOneOf ["RESTRICT", "CASCADE", "SET", "NO"] with
  | "SET" =>
      let _ ← expectOneOf ["NULL", "DEFAULT"]
  | "NO" => expectKeyword "ACTION"
  | _ => pure ()

/-- What a foreign key does on deletion and on update. -/
def referentialActions : Parser Unit :=
  inAnyOrder [clause ["ON", "DELETE"] referentialAction, clause ["ON", "UPDATE"] referentialAction]

/-- A column whose values are generated, unless the words say otherwise. -/
def generatedRest (inner : Level) : Parser (Option Unit) := do
  if ← keywords ["ALWAYS", "AS", "IDENTITY"] then some <$> optionalSequenceOptions
  else if ← keywords ["BY", "DEFAULT", "AS", "IDENTITY"] then some <$> optionalSequenceOptions
  else if ← keywords ["ALWAYS", "AS"] then
    if ← seesSymbol "(" then
      groupedExpr inner
      some <$> expectKeyword "STORED"
    else pure none
  else pure none

/-- What may stand behind the last property of a column. -/
def idleWords : Parser Unit := do
  let _ ← keyword "AUTO_INCREMENT"
  let _ ← keyword "AUTOINCREMENT"
  let _ ← keyword "ASC"
  let _ ← keyword "DESC"
  let _ ← keywords ["ON", "UPDATE"]

/-- A property of a column, if there is one. -/
def columnOption? (inner : Level) : Parser (Option Unit) := do
  if ← clause ["CHARACTER", "SET"] name then pure (some ())
  else if ← keywords ["NOT", "NULL"] then pure (some ())
  else if ← keyword "COMMENT" then
    match ← next? with
    | some (.singleQuoted _) => pure (some ())
    | _ => fail
  else if ← keyword "NULL" then pure (some ())
  else if ← clause ["DEFAULT"] inner.expr then pure (some ())
  else if ← clause ["PRIMARY", "KEY"] constraintCharacteristics then pure (some ())
  else if ← clause ["UNIQUE"] constraintCharacteristics then pure (some ())
  else if ← keyword "REFERENCES" then
    let _ ← name
    optionalColumnList
    referentialActions
    some <$> constraintCharacteristics
  else if ← clause ["CHECK"] (groupedExpr inner) then pure (some ())
  else do
    idleWords
    if ← keyword "GENERATED" then generatedRest inner
    else do
      let _ ← keyword "AS"
      let _ ← keyword "IDENTITY"
      pure none

/-- A property of a column that may have a name. -/
def columnProperty? (inner : Level) : Parser (Option Unit) := do
  if ← keyword "CONSTRAINT" then
    let _ ← identifier
    match ← columnOption? inner with
    | some () => pure (some ())
    | none => fail
  else columnOption? inner

/-- A column of a table. -/
def columnDefinition (inner : Level) : Parser Unit := do
  let _ ← identifier
  let _ ← dataType
  let _ ← after? "COLLATE" name
  let _ ← many (columnProperty? inner)

/-- The structure of an index, if it is given. -/
def indexType? : Parser (Option Unit) := do
  if ← keyword "USING" then
    let _ ← expectOneOf ["BTREE", "HASH"]
    pure (some ())
  else pure none

/-- An option of an index, if there is one. -/
def indexOption? : Parser (Option Unit) := do
  match ← indexType? with
  | some () => pure (some ())
  | none =>
      if ← clause ["COMMENT"] literalText then pure (some ()) else pure none

/-- The columns of a key, with the index that keeps it. -/
def keyColumns : Parser Unit := do
  let _ ← attempt identifier
  let _ ← indexType?
  let _ ← columnList
  let _ ← many indexOption?
  constraintCharacteristics

/-- A foreign key behind its keywords. -/
def foreignKeyRest : Parser Unit := do
  let _ ← columnList
  expectKeyword "REFERENCES"
  let _ ← name
  let _ ← columnList
  referentialActions
  constraintCharacteristics

/-- A constraint of a table, if there is one. -/
def tableConstraint? (inner : Level) : Parser (Option Unit) := do
  let named ← after? "CONSTRAINT" identifier
  match ← oneOf? ["UNIQUE", "PRIMARY", "FOREIGN", "CHECK"] with
  | some "UNIQUE" =>
      if (← oneOf? ["KEY", "INDEX"]).isSome then fail else some <$> keyColumns
  | some "PRIMARY" => do
      expectKeyword "KEY"
      some <$> keyColumns
  | some "FOREIGN" => do
      expectKeyword "KEY"
      some <$> foreignKeyRest
  | some _ => some <$> groupedExpr inner
  | none => if named.isSome then fail else pure none

/-- A column or a constraint of a table. -/
def tableElement (inner : Level) : Parser Unit := do
  match ← tableConstraint? inner with
  | some () => pure ()
  | none =>
      match ← peek? with
      | some (.word _ _) | some (.quotedWord _) => columnDefinition inner
      | _ => fail

/-- The columns and constraints of a table. -/
def tableElements (inner : Level) : Parser Unit := do
  if ← seesSymbol "(" then
    let _ ← parenthesized (commaSeparatedBefore ")" (tableElement inner))

end QueryAdvisor.Sql.Grammar
