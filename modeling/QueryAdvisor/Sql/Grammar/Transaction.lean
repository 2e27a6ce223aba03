import QueryAdvisor.Sql.Grammar.Clause

/-!
# Transactions and settings
-/

namespace QueryAdvisor.Sql.Grammar

open QueryAdvisor.Sql.Parser

/-- How far a transaction is shielded from others. -/
def isolationLevel : Parser Unit := do
  match ← expectOneOf ["READ", "REPEATABLE", "SERIALIZABLE"] with
  | "READ" =>
      let _ ← expectOneOf ["UNCOMMITTED", "COMMITTED"]
  | "REPEATABLE" => expectKeyword "READ"
  | _ => pure ()

/-- The modes of a transaction; one must follow a comma. -/
def transactionModes (required : Bool) : (bound : Nat) → Parser Unit
  | 0 => fail
  | bound + 1 => do
      if ← keywords ["ISOLATION", "LEVEL"] then
        isolationLevel
        more bound
      else if ← keywords ["READ", "ONLY"] then more bound
      else if ← keywords ["READ", "WRITE"] then more bound
      else if required then fail
where
  /-- Goes on behind a mode. -/
  more (bound : Nat) : Parser Unit := do
    let comma ← symbol ","
    transactionModes comma bound

def allTransactionModes : Parser Unit := do
  transactionModes false ((← remaining) + 1)

/-- A transaction behind the first keyword of its start. -/
def beginRest : Parser Unit := do
  let _ ← oneOf? ["TRANSACTION", "WORK"]
  allTransactionModes

/-- A transaction behind the first keyword of its start in the words of the
standard. -/
def startRest : Parser Unit := do
  expectKeyword "TRANSACTION"
  allTransactionModes

/-- What may follow the end of a transaction. -/
def chainClause : Parser Unit := do
  let _ ← oneOf? ["TRANSACTION", "WORK"]
  if ← keyword "AND" then
    let _ ← keyword "NO"
    expectKeyword "CHAIN"

/-- A place in a transaction that is forgotten, behind the keyword. -/
def releaseRest : Parser Unit := do
  let _ ← keyword "SAVEPOINT"
  let _ ← identifier

/-- A way back, behind its keyword. -/
def rollbackRest : Parser Unit := do
  chainClause
  if ← keyword "TO" then
    let _ ← keyword "SAVEPOINT"
    let _ ← identifier

/-! ## Settings -/

/-- A role to take on. -/
def setRole : Parser Unit := do
  expectKeyword "ROLE"
  if ← keyword "NONE" then pure ()
  else
    let _ ← identifier

/-- The value of a setting. -/
def settingValue (inner : Level) : Parser Unit := do
  if (← sees "SELECT") || (← sees "WITH") then
    let _ ← inner.query
  else
    let _ ← inner.expr

/-- A setting behind its keyword. -/
def setRest (inner : Level) : Parser Unit := do
  let scope ← oneOf? ["SESSION", "LOCAL", "HIVEVAR"]
  if scope = some "HIVEVAR" then
    expectSymbol ":"
    setting scope
  else
    match ← attempt setRole with
    | some () => pure ()
    | none => setting scope
where
  /-- The name of a setting, and its value. -/
  setting (scope : Option String) : Parser Unit := do
    let parts ←
      if ← keywords ["TIME", "ZONE"] then pure [⟨"TIMEZONE", false⟩] else name
    if ← symbol "=" then
      let _ ← commaSeparated (settingValue inner)
    else if ← keyword "TO" then
      let _ ← commaSeparated (settingValue inner)
    else
      match parts with
      | [⟨text, false⟩] =>
          if text.toUpper = "TIMEZONE" then
            let _ ← inner.expr
          else if text = "CHARACTERISTICS" then
            expectKeywords ["AS", "TRANSACTION"]
            allTransactionModes
          else if text = "TRANSACTION" && scope.isNone then
            if ← keyword "SNAPSHOT" then
              let _ ← literal
            else allTransactionModes
          else fail
      | _ => fail

end QueryAdvisor.Sql.Grammar
