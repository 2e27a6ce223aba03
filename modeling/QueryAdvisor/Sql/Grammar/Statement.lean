import QueryAdvisor.Sql.Grammar.Alter
import QueryAdvisor.Sql.Grammar.Create
import QueryAdvisor.Sql.Grammar.Drop
import QueryAdvisor.Sql.Grammar.Merge
import QueryAdvisor.Sql.Grammar.Session
import QueryAdvisor.Sql.Grammar.Transaction
import QueryAdvisor.Sql.Grammar.Upkeep
import QueryAdvisor.Sql.Lexer

/-!
# Statements

The statements of a text are separated by one or more semicolons. A statement
may be followed by `END`, which ends the text. Statements, queries and
expressions nest at most `maxLevels` deep.
-/

namespace QueryAdvisor.Sql

namespace Grammar

open QueryAdvisor.Sql.Parser

/-- An option of `EXPLAIN`. -/
def explainOption (inner : Level) : Parser Unit := do
  let _ ← identifier
  if (← seesSymbol ",") || (← seesSymbol ")") then pure ()
  else
    let _ ← inner.expr

/-- The words between `EXPLAIN` and the statement. -/
def explainWords : Parser Unit := do
  if ← keywords ["QUERY", "PLAN"] then pure ()
  else do
    let _ ← keyword "ANALYZE"
    let _ ← keyword "VERBOSE"
    if ← keyword "FORMAT" then
      let _ ← expectOneOf ["TEXT", "GRAPHVIZ", "JSON"]

/-- The statement to explain, or the table to describe. -/
def explained (inner : Level) : Parser Statement := do
  match ← attempt inner.statement with
  | some (.explain _) | some .describe => fail
  | some statement => pure (.explain statement)
  | none => do
      let _ ← oneOf? ["EXTENDED", "FORMATTED"]
      let _ ← name
      pure .describe

/-- `EXPLAIN` behind its keyword. -/
def explainRest (inner : Level) : Parser Statement := do
  if ← seesSymbol "(" then
    let _ ← parenthesized (commaSeparated (explainOption inner))
  else explainWords
  explained inner

/-- A statement about data or definitions that has no node, by its keyword. -/
def definitionRest? (inner : Level) : String → Option (Parser Unit)
  | "CREATE" => some (createRest inner)
  | "ALTER" => some (alterRest inner)
  | "DROP" => some (dropRest inner)
  | "TRUNCATE" => some (truncateRest inner)
  | "GRANT" => some grantRest
  | "REVOKE" => some revokeRest
  | "COMMENT" => some commentRest
  | "MERGE" => some (mergeRest inner)
  | "COPY" => some (copyRest inner)
  | "UNLOAD" => some (unloadRest inner)
  | "ANALYZE" => some (analyzeRest inner)
  | "ATTACH" => some (attachRest inner)
  | "MSCK" => some checkPartitionsRest
  | "CACHE" => some (cacheRest inner)
  | "UNCACHE" => some uncacheRest
  | _ => none

/-- A statement about a session or a transaction, by its keyword. -/
def sessionRest? (inner : Level) : String → Option (Parser Unit)
  | "BEGIN" => some beginRest
  | "START" => some startRest
  | "COMMIT" | "END" => some chainClause
  | "ROLLBACK" => some rollbackRest
  | "SAVEPOINT" => some do
      let _ ← identifier
  | "RELEASE" => some releaseRest
  | "SET" => some (setRest inner)
  | "SHOW" => some (showRest inner)
  | "USE" => some do
      let _ ← name
  | "DISCARD" => some discardRest
  | "DECLARE" => some (declareRest inner)
  | "FETCH" => some fetchRest
  | "CLOSE" => some closeRest
  | "PREPARE" => some (prepareRest inner)
  | "EXECUTE" | "EXEC" => some (executeRest inner)
  | "DEALLOCATE" => some deallocateRest
  | "CALL" => some (callRest inner)
  | "ASSERT" => some (assertRest inner)
  | "KILL" => some killRest
  | "LISTEN" => some do
      let _ ← identifier
  | "NOTIFY" => some notifyRest
  | "PRAGMA" => some pragmaRest
  | _ => none

/-- A statement that starts with a consumed keyword. -/
def statementRest (inner : Level) (k : String) : Parser Statement := do
  match k with
  | "INSERT" =>
      match ← insertRest inner with
      | .intoTable source => pure (.insert source)
      | .intoDirectory => pure .other
  | "UPDATE" => do
      let (target, condition) ← updateRest inner
      pure (.update target condition)
  | "DELETE" => .delete <$> deleteRest inner
  | "EXPLAIN" => explainRest inner
  | "DESC" | "DESCRIBE" => do
      explainWords
      explained inner
  | _ =>
      match (definitionRest? inner k).or (sessionRest? inner k) with
      | some rest => do
          rest
          pure .other
      | none => fail

/-- A statement. -/
def statement (inner : Level) : Parser Statement := do
  match ← peek? with
  | some (.word _ k) =>
      if ["SELECT", "WITH", "VALUES"].contains k then .query <$> inner.query
      else do
        let _ ← next?
        statementRest inner k
  | some (.symbol "(") => .query <$> inner.query
  | _ => fail

/-- The parsers with so many levels left to open. -/
def level : Nat → Level
  | 0 => .innermost
  | n + 1 =>
      let inner := level n
      { statement := statement inner
        query := query inner
        operation := operation inner }

/-- How many levels of statements, queries and expressions may be open. -/
def maxLevels : Nat := 50

/-- The statements of some tokens. -/
def statements (tokens : List Token) : Except Fault (List Statement) :=
  Prod.fst <$> statementList (level maxLevels).statement tokens

end Grammar

/-- The statements of a text, unless it is malformed. -/
def parse? (text : String) : Option (List Statement) := do
  let tokens ← tokens? text
  (Grammar.statements tokens).toOption

end QueryAdvisor.Sql
