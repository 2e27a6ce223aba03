import QueryAdvisor.Sql.Grammar.Routine

/-!
# Removals
-/

namespace QueryAdvisor.Sql.Grammar

open QueryAdvisor.Sql.Parser

/-- Functions or procedures that go, behind their keyword. -/
def dropRoutinesRest (inner : Level) : Parser Unit := do
  ifExists
  let _ ← commaSeparated (functionReference inner)
  dropBehavior

/-- A policy that goes, behind its keyword. -/
def dropPolicyRest : Parser Unit := do
  ifExists
  let _ ← identifier
  expectKeyword "ON"
  let _ ← name
  dropBehavior

/-- A secret that goes, behind its keyword. -/
def dropSecretRest : Parser Unit := do
  ifExists
  let _ ← identifier
  let _ ← after? "FROM" skipIdentifier

/-- A trigger that goes, behind its keyword. -/
def dropTriggerRest : Parser Unit := do
  ifExists
  let _ ← name
  expectKeyword "ON"
  let _ ← name
  dropBehavior

/-- Objects of other kinds that go, behind the keyword of the kind. -/
def dropObjectsRest (kind : String) : Parser Unit := do
  ifExists
  names
  let cascade ← keyword "CASCADE"
  let restrict ← keyword "RESTRICT"
  let purge ← keyword "PURGE"
  if cascade && restrict then fail
  else if kind = "ROLE" && (cascade || restrict || purge) then fail

/-- A removal behind its keyword. -/
def dropRest (inner : Level) : Parser Unit := do
  match ← expectOneOf ["TABLE", "VIEW", "INDEX", "ROLE", "SCHEMA", "DATABASE", "SEQUENCE", "STAGE",
      "TYPE", "FUNCTION", "PROCEDURE", "POLICY", "SECRET", "TRIGGER"] with
  | "FUNCTION" | "PROCEDURE" => dropRoutinesRest inner
  | "POLICY" => dropPolicyRest
  | "SECRET" => dropSecretRest
  | "TRIGGER" => dropTriggerRest
  | kind => dropObjectsRest kind

/-- The emptying of tables, behind its keyword. -/
def truncateRest (inner : Level) : Parser Unit := do
  let _ ← keyword "TABLE"
  let _ ← keyword "ONLY"
  names
  let _ ← after? "PARTITION" (groupedExprs inner)
  if ← keywords ["RESTART", "IDENTITY"] then pure ()
  else
    let _ ← keywords ["CONTINUE", "IDENTITY"]
  dropBehavior
  clusterClause

end QueryAdvisor.Sql.Grammar
