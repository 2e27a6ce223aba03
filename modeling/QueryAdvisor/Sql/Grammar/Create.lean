import QueryAdvisor.Sql.Grammar.Role
import QueryAdvisor.Sql.Grammar.Routine
import QueryAdvisor.Sql.Grammar.Table

/-!
# Definitions
-/

namespace QueryAdvisor.Sql.Grammar

open QueryAdvisor.Sql.Parser

/-- A schema behind its keyword. -/
def createSchemaRest : Parser Unit := do
  ifNotExists
  if ← keyword "AUTHORIZATION" then
    let _ ← identifier
  else do
    let _ ← name
    let _ ← after? "AUTHORIZATION" identifier

/-- A database behind its keyword. -/
def createDatabaseRest : Parser Unit := do
  ifNotExists
  let _ ← name
  let _ ← many do
    if (← oneOf? ["LOCATION", "MANAGEDLOCATION"]).isSome then some <$> literalText else pure none

/-- An extension behind its keyword. -/
def createExtensionRest : Parser Unit := do
  ifNotExists
  let _ ← identifier
  if ← keyword "WITH" then
    let _ ← after? "SCHEMA" identifier
    let _ ← after? "VERSION" identifier
    let _ ← keyword "CASCADE"

/-- A sequence behind its keyword. -/
def createSequenceRest : Parser Unit := do
  ifNotExists
  let _ ← name
  let _ ← after? "AS" dataType
  sequenceOptions
  if ← keywords ["OWNED", "BY"] then
    if ← keyword "NONE" then pure ()
    else
      let _ ← name

/-- The attributes of a type up to the closing parenthesis, which is consumed; a
comma may stand in front of it. -/
def typeAttributes : (bound : Nat) → Parser Unit
  | 0 => fail
  | bound + 1 => do
      let _ ← identifier
      let _ ← dataType
      let _ ← after? "COLLATE" name
      let comma ← symbol ","
      if ← symbol ")" then pure ()
      else if comma then typeAttributes bound
      else fail

/-- A type behind its keyword. -/
def createTypeRest : Parser Unit := do
  let _ ← name
  expectKeyword "AS"
  if ← symbol "(" then
    if ← symbol ")" then pure () else typeAttributes ((← remaining) + 1)

/-- The start of a type whose values are listed. -/
def enumerationStart : Parser Unit := do
  expectKeyword "TYPE"
  let _ ← name
  expectKeywords ["AS", "ENUM"]

/-- The name of a secret and where it is kept, if they are given. -/
def secretPlace : Parser Unit := do
  if ← seesSymbol "(" then pure ()
  else do
    let placed ← do
      if ← keyword "IN" then skipIdentifier
      else do
        let _ ← skipIdentifier
        pure false
    if placed then pure ()
    else if ← keyword "IN" then
      let _ ← skipIdentifier

/-- A secret behind its keyword. -/
def createSecretRest : Parser Unit := do
  ifNotExists
  secretPlace
  parenthesized do
    expectKeyword "TYPE"
    let _ ← identifier
    if ← symbol "," then
      let _ ← commaSeparated (do
        let _ ← identifier
        let _ ← identifier)

/-- What can be defined in place of something that is there. -/
def replaceable (inner : Level) : List (List String × Parser Unit) :=
  [(["TABLE"], createTableRest inner), (["MATERIALIZED", "VIEW"], createViewRest inner),
    (["VIEW"], createViewRest inner), (["POLICY"], createPolicyRest inner),
    (["EXTERNAL"], createExternalRest inner), (["FUNCTION"], createFunctionRest inner),
    (["TRIGGER"], createTriggerRest inner), (["CONSTRAINT", "TRIGGER"], createTriggerRest inner),
    (["SECRET"], createSecretRest)]

/-- What can only be defined anew. -/
def irreplaceable (inner : Level) : List (List String × Parser Unit) :=
  [(["EXTENSION"], createExtensionRest), (["INDEX"], createIndexRest inner),
    (["UNIQUE", "INDEX"], createIndexRest inner), (["VIRTUAL"], createVirtualRest),
    (["SCHEMA"], createSchemaRest), (["DATABASE"], createDatabaseRest), (["ROLE"], createRoleRest),
    (["SEQUENCE"], createSequenceRest), (["TYPE"], createTypeRest),
    (["PROCEDURE"], createProcedureRest inner)]

/-- Reads the object whose keywords come next. -/
def objectOf : List (List String × Parser Unit) → Parser Unit
  | [] => fail
  | (ks, rest) :: others => do
      if ← keywords ks then rest else objectOf others

/-- A definition of an object, with what says how it is defined in front. -/
def createObject (inner : Level) : Parser Unit := do
  let replacing ← keywords ["OR", "REPLACE"]
  let _ ← keywords ["OR", "ALTER"]
  let _ ← keyword "LOCAL"
  let _ ← keyword "GLOBAL"
  let _ ← keyword "TRANSIENT"
  let _ ← oneOf? ["TEMP", "TEMPORARY"]
  if replacing then objectOf (replaceable inner)
  else objectOf (replaceable inner ++ irreplaceable inner)

/-- A definition behind its keyword. -/
def createRest (inner : Level) : Parser Unit := do
  match ← attempt enumerationStart with
  | some () =>
      let _ ← parenthesized (commaSeparatedBefore ")" identifier)
  | none => createObject inner

end QueryAdvisor.Sql.Grammar
