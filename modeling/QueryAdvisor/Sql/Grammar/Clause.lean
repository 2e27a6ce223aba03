import QueryAdvisor.Sql.Grammar.Change

/-!
# Clauses that several statements share

All of them are read and dropped.
-/

namespace QueryAdvisor.Sql.Grammar

open QueryAdvisor.Sql.Parser

/-- `IF EXISTS`, if it is there. -/
def ifExists : Parser Unit := do
  let _ ← keywords ["IF", "EXISTS"]

/-- `IF NOT EXISTS`, if it is there. -/
def ifNotExists : Parser Unit := do
  let _ ← keywords ["IF", "NOT", "EXISTS"]

/-- Identifiers with commas between them. -/
def identifiers : Parser Unit := do
  let _ ← commaSeparated identifier

/-- Names with commas between them. -/
def names : Parser Unit := do
  let _ ← commaSeparated name

/-- An expression between parentheses. -/
def groupedExpr (inner : Level) : Parser Unit := do
  let _ ← parenthesized inner.expr

/-- Expressions between parentheses. -/
def groupedExprs (inner : Level) : Parser Unit := do
  let _ ← parenthesized inner.exprs

/-- An option with its value. -/
def sqlOption (inner : Level) : Parser Unit := do
  let _ ← identifier
  expectSymbol "="
  let _ ← inner.expr

/-- Options between parentheses behind keywords, if the keywords are there; gives
whether they are. -/
def optionsBehind (inner : Level) (ks : List String) : Parser Bool :=
  clause ks (parenthesized (commaSeparated (sqlOption inner)))

/-- Options behind `WITH`, if they are there. -/
def withOptions (inner : Level) : Parser Unit := do
  let _ ← optionsBehind inner ["WITH"]

/-- A cluster to work on, if there is one. -/
def clusterClause : Parser Unit := do
  let _ ← clause ["ON", "CLUSTER"] identifier

/-- A number without a sign, or a placeholder. -/
def unsignedNumber : Parser Unit := do
  match ← literal with
  | .number _ | .placeholder _ => pure ()
  | _ => fail

/-- A number that may have a sign. -/
def signedNumber : Parser Unit := do
  if ← symbol "+" then unsignedNumber
  else do
    let _ ← symbol "-"
    unsignedNumber

/-- Who owns something. -/
def owner : Parser Unit := do
  if (← oneOf? ["CURRENT_USER", "CURRENT_ROLE", "SESSION_USER"]).isSome then pure ()
  else
    let _ ← identifier

/-- What happens to things that depend on one that goes. -/
def dropBehavior : Parser Unit := do
  let _ ← oneOf? ["CASCADE", "RESTRICT"]

/-- The options of a sequence, in a fixed order. -/
def sequenceOptions : Parser Unit := do
  if ← keyword "INCREMENT" then
    let _ ← keyword "BY"
    signedNumber
  limit "MINVALUE"
  limit "MAXVALUE"
  if ← keyword "START" then
    let _ ← keyword "WITH"
    signedNumber
  let _ ← after? "CACHE" signedNumber
  if ← keywords ["NO", "CYCLE"] then pure ()
  else
    let _ ← keyword "CYCLE"
where
  /-- A limit or its absence. -/
  limit (k : String) : Parser Unit := do
    if ← keyword k then signedNumber
    else
      let _ ← keywords ["NO", k]

/-- Options of a sequence between parentheses, if they are there. -/
def optionalSequenceOptions : Parser Unit := do
  if ← seesSymbol "(" then parenthesized sequenceOptions

/-- Whether and when a constraint is checked. -/
def constraintCharacteristics : Parser Unit :=
  inAnyOrder
    [do if ← keywords ["NOT", "DEFERRABLE"] then pure true else keyword "DEFERRABLE",
      do
        if ← keyword "INITIALLY" then
          let _ ← expectOneOf ["DEFERRED", "IMMEDIATE"]
          pure true
        else pure false,
      do if ← keyword "ENFORCED" then pure true else keywords ["NOT", "ENFORCED"]]

end QueryAdvisor.Sql.Grammar
