import QueryAdvisor.Text.Blank

/-!
# EXPLAIN statements

To obtain a plan from a database the query is put behind `EXPLAIN` and its
options. White space around the query goes, then the semicolons at its end,
then the white space in front of those.
-/

namespace QueryAdvisor

/-- What is asked for besides the plan and its costs. -/
structure ExplainOptions where
  /-- Run the query and report actual rows and times. -/
  analyze : Bool := true
  /-- Report the use of buffers. -/
  buffers : Bool := true
deriving DecidableEq, Repr

namespace ExplainOptions

/-- The options in the order in which they are written. -/
def names (o : ExplainOptions) : List String :=
  ["FORMAT JSON", "COSTS"] ++ (if o.analyze then ["ANALYZE"] else [])
    ++ (if o.buffers then ["BUFFERS"] else [])

end ExplainOptions

/-- A query as it is put into a statement. -/
def embeddedQuery (query : List Char) : List Char :=
  Text.trimBack (((Text.trim query).reverse.dropWhile (· == ';')).reverse)

/-- The statement that asks for the plan of a query. -/
def explainStatement (o : ExplainOptions) (query : String) : String :=
  "EXPLAIN (" ++ String.intercalate ", " o.names ++ ") "
    ++ String.ofList (embeddedQuery query.toList)

end QueryAdvisor
