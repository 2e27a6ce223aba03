import QueryAdvisor.ParseTree.Build
import QueryAdvisor.Plan.Connection
import QueryAdvisor.Service.Basic
import QueryAdvisor.Sql.Grammar.Statement

/-!
# The default service

The default service has the built-in rules, reads queries itself and asks
databases for their plans.
-/

namespace QueryAdvisor

/-- Reads a query and builds its parse tree. -/
def parseSql : QueryParser := fun query =>
  match Sql.parse? query with
  | some statements => .ok (ParseTree.ofStatements statements)
  | none => .error (.malformedQuery "sql parser error")

/-- A service with the built-in rules and collaborators. -/
def Service.default : Service where
  engine := Engine.default
  parser := some parseSql
  provider := some askDatabase

end QueryAdvisor
