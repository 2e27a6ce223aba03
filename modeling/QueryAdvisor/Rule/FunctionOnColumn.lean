import QueryAdvisor.Rule.Basic
import QueryAdvisor.Rule.Distinct

/-!
# Functions on columns

A comparison whose operand is a function of a column cannot use an index on
that column. Only the first argument counts. Each pair of a function and a
column is reported once; function names differ only by more than letter case.
-/

namespace QueryAdvisor.FunctionOnColumn

open ParseTree

/-- A function and the column it is applied to. -/
structure Finding where
  function : String
  column : String
deriving DecidableEq, Repr

/-- What an operand shows. -/
def finding? (operand : Tree) : Option Finding := do
  let call ← call? operand
  let first ← call.args.head?
  let column ← (columnName? first).filter (· ≠ "")
  pure ⟨call.name, column⟩

def Finding.suggestion (f : Finding) : Suggestion where
  title := "Function applied to column in predicate"
  description :=
    "Function " ++ f.function ++ " is applied to column " ++ f.column
      ++ " in a predicate, disabling index usage."
  recommendation :=
    "Pre-compute " ++ f.column
      ++ " or rewrite the predicate to avoid wrapping the column in a function."
  severity := .medium

/-- The suggestions about some comparisons. -/
def suggestions (comparisons : List Comparison) : List Suggestion :=
  (distinct ((comparisons.flatMap Comparison.operands).filterMap finding?)).map
    Finding.suggestion

end QueryAdvisor.FunctionOnColumn

namespace QueryAdvisor

/-- Reports every function of a column in a comparison. -/
def Rule.functionOnColumn : Rule where
  name := "FunctionOnColumn"
  apply input := .ok (FunctionOnColumn.suggestions input.comparisons)

end QueryAdvisor
