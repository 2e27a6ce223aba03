import QueryAdvisor.Sql.Grammar.Column
import QueryAdvisor.Sql.Grammar.Role

/-!
# Changes of definitions
-/

namespace QueryAdvisor.Sql.Grammar

open QueryAdvisor.Sql.Parser

/-- What is added to a table. -/
def addToTable (inner : Level) : Parser Unit := do
  match ← tableConstraint? inner with
  | some () => pure ()
  | none => do
      ifNotExists
      let partitions ← many (after? "PARTITION" (groupedExprs inner))
      if partitions.isEmpty then
        let _ ← keyword "COLUMN"
        ifNotExists
        columnDefinition inner

/-- One identifier and, behind a keyword, another. -/
def renamed : Parser Unit := do
  let _ ← identifier
  expectKeyword "TO"
  let _ ← identifier

/-- What gets another name. -/
def renameInTable : Parser Unit := do
  if ← keyword "CONSTRAINT" then renamed
  else if ← keyword "TO" then
    let _ ← name
  else do
    let _ ← keyword "COLUMN"
    renamed

/-- A rule or a trigger by its name. -/
def ruleOrTrigger : Parser Unit := do
  let _ ← expectOneOf ["RULE", "TRIGGER"]
  let _ ← identifier

/-- What is switched off. -/
def disableInTable : Parser Unit := do
  if ← keywords ["ROW", "LEVEL", "SECURITY"] then pure () else ruleOrTrigger

/-- What is switched on. -/
def enableInTable : Parser Unit := do
  if ← keywords ["ROW", "LEVEL", "SECURITY"] then pure ()
  else do
    let _ ← oneOf? ["ALWAYS", "REPLICA"]
    ruleOrTrigger

/-- What is removed from a table. -/
def dropFromTable (inner : Level) : Parser Unit := do
  if ← keywords ["IF", "EXISTS", "PARTITION"] then groupedExprs inner
  else if ← keyword "PARTITION" then groupedExprs inner
  else do
    if ← keyword "CONSTRAINT" then pure ()
    else do
      let _ ← keywords ["PRIMARY", "KEY"]
      let _ ← keyword "PROJECTION"
      let _ ← keyword "COLUMN"
    ifExists
    let _ ← identifier
    let _ ← keyword "CASCADE"

/-- Partitions that get other values. -/
def renamePartition (inner : Level) : Parser Unit := do
  groupedExprs inner
  expectKeywords ["RENAME", "TO", "PARTITION"]
  groupedExprs inner

/-- A new type for a column, with its properties. -/
def retypedColumn (inner : Level) : Parser Unit := do
  let _ ← identifier
  let _ ← dataType
  let _ ← many (columnOption? inner)

/-- What changes about a column. -/
def alterColumn (inner : Level) : Parser Unit := do
  let _ ← keyword "COLUMN"
  let _ ← identifier
  if ← keywords ["SET", "NOT", "NULL"] then pure ()
  else if ← keywords ["DROP", "NOT", "NULL"] then pure ()
  else if ← clause ["SET", "DEFAULT"] inner.expr then pure ()
  else if ← keywords ["DROP", "DEFAULT"] then pure ()
  else if ← keywords ["SET", "DATA", "TYPE"] then newType
  else if ← keyword "TYPE" then newType
  else do
    expectKeywords ["ADD", "GENERATED"]
    if ← keyword "ALWAYS" then pure ()
    else
      let _ ← keywords ["BY", "DEFAULT"]
    expectKeywords ["AS", "IDENTITY"]
    optionalSequenceOptions
where
  /-- A type, and how values are brought to it. -/
  newType : Parser Unit := do
    let _ ← dataType
    let _ ← after? "USING" inner.expr

/-- A change of a table. -/
def tableChange (inner : Level) : Parser Unit := do
  if ← clause ["ADD"] (addToTable inner) then pure ()
  else if ← clause ["RENAME"] renameInTable then pure ()
  else if ← clause ["DISABLE"] disableInTable then pure ()
  else if ← clause ["ENABLE"] enableInTable then pure ()
  else do
    let _ ← keywords ["CLEAR", "PROJECTION"]
    let _ ← keywords ["MATERIALIZE", "PROJECTION"]
    match ← oneOf? ["DROP", "PARTITION", "CHANGE", "MODIFY", "ALTER", "SWAP"] with
    | some "DROP" => dropFromTable inner
    | some "PARTITION" => renamePartition inner
    | some "CHANGE" => do
        let _ ← keyword "COLUMN"
        let _ ← identifier
        retypedColumn inner
    | some "MODIFY" => do
        let _ ← keyword "COLUMN"
        retypedColumn inner
    | some "ALTER" => alterColumn inner
    | some _ => do
        expectKeyword "WITH"
        let _ ← name
    | none =>
        if ← clause ["OWNER", "TO"] owner then pure ()
        else if ← optionsBehind inner ["SET", "TBLPROPERTIES"] then pure ()
        else fail

/-- A change of a table behind its keyword. -/
def alterTableRest (inner : Level) : Parser Unit := do
  ifExists
  let _ ← keyword "ONLY"
  let _ ← name
  clusterClause
  let _ ← commaSeparated (tableChange inner)
  if ← clause ["LOCATION"] identifier then pure ()
  else
    let _ ← clause ["SET", "LOCATION"] identifier

/-- A change of a view behind its keyword. -/
def alterViewRest (inner : Level) : Parser Unit := do
  let _ ← name
  optionalColumnList
  withOptions inner
  expectKeyword "AS"
  let _ ← inner.query

/-- A change of an index behind its keyword. -/
def alterIndexRest : Parser Unit := do
  let _ ← name
  expectKeywords ["RENAME", "TO"]
  let _ ← name

/-- A change behind its keyword. -/
def alterRest (inner : Level) : Parser Unit := do
  match ← expectOneOf ["VIEW", "TABLE", "INDEX", "ROLE", "POLICY"] with
  | "VIEW" => alterViewRest inner
  | "TABLE" => alterTableRest inner
  | "INDEX" => alterIndexRest
  | "ROLE" => alterRoleRest inner
  | _ => alterPolicyRest inner

end QueryAdvisor.Sql.Grammar
