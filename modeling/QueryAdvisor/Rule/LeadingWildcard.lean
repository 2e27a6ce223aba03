import QueryAdvisor.Rule.Basic
import QueryAdvisor.Rule.Distinct

/-!
# Leading wildcards

A `LIKE` pattern that starts with `%` cannot use an index. Each pair of a
column and such a pattern is reported once; an operand that is no column, or
one without a name, counts as no column.
-/

namespace QueryAdvisor.LeadingWildcard

open ParseTree

/-- A pattern that starts with a wildcard, and the column it is matched against. -/
structure Finding where
  column : Option String
  pattern : String
deriving DecidableEq, Repr

/-- What a comparison shows. -/
def finding? (c : Comparison) : Option Finding :=
  if c.isLike then
    match c.right?.bind constText? with
    | some pattern =>
        if pattern.toList.head? = some '%' then
          some ⟨(c.left?.bind columnName?).filter (· ≠ ""), pattern⟩
        else none
    | none => none
  else none

/-- The column of a finding, or what it is called when there is none. -/
def Finding.label (f : Finding) : String :=
  f.column.getD "column"

def Finding.suggestion (f : Finding) : Suggestion where
  title := "Leading wildcard in LIKE pattern"
  description :=
    "Predicate `LIKE '" ++ f.pattern ++ "'` prevents index usage on " ++ f.label ++ "."
  recommendation :=
    "Rewrite the predicate on " ++ f.label
      ++ " to avoid a leading wildcard or use full-text search mechanisms."
  severity := .medium

/-- The suggestions about some comparisons. -/
def suggestions (comparisons : List Comparison) : List Suggestion :=
  (distinct (comparisons.filterMap finding?)).map Finding.suggestion

end QueryAdvisor.LeadingWildcard

namespace QueryAdvisor

/-- Reports every pattern that starts with a wildcard. -/
def Rule.leadingWildcard : Rule where
  name := "LeadingWildcard"
  apply input := .ok (LeadingWildcard.suggestions input.comparisons)

end QueryAdvisor
