import QueryAdvisor.Sql.Grammar.Clause

/-!
# Roles, policies and privileges
-/

namespace QueryAdvisor.Sql.Grammar

open QueryAdvisor.Sql.Parser

/-! ## Roles -/

/-- Options of a role that are either set or not. -/
def roleFlags : List (String × String) :=
  [("LOGIN", "NOLOGIN"), ("INHERIT", "NOINHERIT"), ("BYPASSRLS", "NOBYPASSRLS"),
    ("CREATEDB", "NOCREATEDB"), ("CREATEROLE", "NOCREATEROLE"), ("SUPERUSER", "NOSUPERUSER"),
    ("REPLICATION", "NOREPLICATION")]

/-- Options of a role that have a value. -/
def roleSettings : List (Parser Bool) :=
  [clause ["PASSWORD"] literal,
    clause ["CONNECTION"] do
      expectKeyword "LIMIT"
      unsignedNumber,
    clause ["VALID"] do
      expectKeyword "UNTIL"
      literal]

/-- Options of a role, each of which can be given once. -/
def roleOptions : List (Parser Bool) :=
  roleFlags.map (fun flag => do pure (← oneOf? [flag.1, flag.2]).isSome) ++ roleSettings

/-- Roles that a role belongs to, or that belong to it. -/
def roleMembers : List (Parser Bool) :=
  [clause ["IN", "ROLE"] identifiers, clause ["IN", "GROUP"] identifiers,
    clause ["ROLE"] identifiers, clause ["USER"] identifiers, clause ["ADMIN"] identifiers]

/-- Roles behind their keyword. -/
def createRoleRest : Parser Unit := do
  ifNotExists
  names
  let _ ← keyword "WITH"
  inAnyOrder (roleOptions ++ roleMembers)

/-- The value that a role sets something to. -/
def roleValue (inner : Level) : Parser Unit := do
  if ← keyword "DEFAULT" then pure ()
  else
    let _ ← inner.expr

/-- One option of a role. -/
def roleOption : Parser Unit := do
  match ← oneClause roleOptions with
  | some _ => pure ()
  | none => fail

/-- A change of a role behind its keyword. -/
def alterRoleRest (inner : Level) : Parser Unit := do
  let _ ← identifier
  if ← keywords ["IN", "DATABASE"] then skipName
  if ← keyword "RENAME" then
    expectKeyword "TO"
    let _ ← identifier
  else if ← keyword "SET" then
    let _ ← name
    if ← keywords ["FROM", "CURRENT"] then pure ()
    else if ← symbol "=" then roleValue inner
    else do
      expectKeyword "TO"
      roleValue inner
  else if ← keyword "RESET" then
    if ← keyword "ALL" then pure ()
    else
      let _ ← name
  else do
    let _ ← keyword "WITH"
    roleOption
    let _ ← many (attempt roleOption)

/-! ## Policies -/

/-- To whom a policy applies, and which rows it lets through. -/
def policyClauses (inner : Level) : Parser Unit := do
  let _ ← after? "TO" (commaSeparated owner)
  let _ ← after? "USING" (groupedExpr inner)
  let _ ← clause ["WITH", "CHECK"] (groupedExpr inner)

/-- A policy behind its keyword. -/
def createPolicyRest (inner : Level) : Parser Unit := do
  let _ ← identifier
  expectKeyword "ON"
  let _ ← name
  let _ ← after? "AS" (expectOneOf ["PERMISSIVE", "RESTRICTIVE"])
  let _ ← after? "FOR" (expectOneOf ["ALL", "SELECT", "INSERT", "UPDATE", "DELETE"])
  policyClauses inner

/-- A change of a policy behind its keyword. -/
def alterPolicyRest (inner : Level) : Parser Unit := do
  let _ ← identifier
  expectKeyword "ON"
  let _ ← name
  if ← keyword "RENAME" then
    expectKeyword "TO"
    let _ ← identifier
  else policyClauses inner

/-! ## Privileges -/

/-- A privilege, some of which may be limited to columns. -/
def privilege : Parser Unit := do
  match ← expectOneOf ["CONNECT", "CREATE", "DELETE", "EXECUTE", "INSERT", "REFERENCES", "SELECT",
      "TEMPORARY", "TRIGGER", "TRUNCATE", "UPDATE", "USAGE"] with
  | "INSERT" | "REFERENCES" | "SELECT" | "UPDATE" => optionalColumnList
  | _ => pure ()

/-- What privileges apply to. -/
def privilegeObjects : Parser Unit := do
  if ← keywords ["ALL", "TABLES", "IN", "SCHEMA"] then names
  else if ← keywords ["ALL", "SEQUENCES", "IN", "SCHEMA"] then names
  else do
    let _ ← oneOf? ["SEQUENCE", "SCHEMA", "TABLE"]
    names

/-- Privileges on objects. -/
def privilegesOnObjects : Parser Unit := do
  if ← keyword "ALL" then
    let _ ← keyword "PRIVILEGES"
  else
    let _ ← commaSeparated privilege
  expectKeyword "ON"
  privilegeObjects

/-- Who has given privileges, if it is said. -/
def grantedBy : Parser Unit := do
  let _ ← clause ["GRANTED", "BY"] identifier

/-- A grant behind its keyword. -/
def grantRest : Parser Unit := do
  privilegesOnObjects
  expectKeyword "TO"
  identifiers
  let _ ← keywords ["WITH", "GRANT", "OPTION"]
  grantedBy

/-- The end of a grant, behind its keyword. -/
def revokeRest : Parser Unit := do
  privilegesOnObjects
  expectKeyword "FROM"
  identifiers
  grantedBy
  dropBehavior

end QueryAdvisor.Sql.Grammar
