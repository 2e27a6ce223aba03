import QueryAdvisor.Sql.Grammar.Clause

/-!
# Merges

A merge changes the rows of a table that match those of a relation, and
inserts those that do not.
-/

namespace QueryAdvisor.Sql.Grammar

open QueryAdvisor.Sql.Parser

/-- Which rows a clause is about, behind `WHEN`; gives whether they are to be
inserted. -/
def mergeMatch : Parser Bool := do
  if ← keywords ["NOT", "MATCHED"] then
    if ← keywords ["BY", "SOURCE"] then pure false
    else do
      let _ ← keywords ["BY", "TARGET"]
      pure true
  else do
    expectKeyword "MATCHED"
    pure false

/-- What a clause does to the rows of the table. -/
def mergeChange (inner : Level) : Parser Unit := do
  if (← expectOneOf ["UPDATE", "DELETE"]) = "UPDATE" then
    expectKeyword "SET"
    assignments inner

/-- The rows that a clause inserts. -/
def mergeInsert (inner : Level) : Parser Unit := do
  expectKeyword "INSERT"
  optionalColumnList
  expectKeyword "VALUES"
  let _ ← commaSeparated (valuesRow inner)

/-- A clause of a merge, unless the statement ends. -/
def mergeClause? (inner : Level) : Parser (Option Unit) := do
  if ← atEnd then pure none
  else if ← seesSymbol ";" then pure none
  else do
    expectKeyword "WHEN"
    let inserts ← mergeMatch
    let _ ← after? "AND" inner.expr
    expectKeyword "THEN"
    if inserts then mergeInsert inner else mergeChange inner
    pure (some ())

/-- A merge behind its keyword. -/
def mergeRest (inner : Level) : Parser Unit := do
  let _ ← keyword "INTO"
  let _ ← tableFactor inner
  expectKeyword "USING"
  let _ ← tableFactor inner
  expectKeyword "ON"
  let _ ← inner.expr
  let _ ← many (mergeClause? inner)

end QueryAdvisor.Sql.Grammar
