import QueryAdvisor.Command.Reading
import QueryAdvisor.Service.Basic

/-!
# Failures

A run fails at one stage, and reports the stage with all that lies behind the
failure.
-/

namespace QueryAdvisor.Command

/-- The stage at which a run failed. -/
inductive Failure where
  /-- More than one input is standard input. -/
  | manyStandardInputs
  | sqlUnread (source : Source) (error : ReadError)
  /-- A plan is to come from a file, and no file is given. -/
  | noExplain
  | explainUnread (source : Source) (error : ReadError)
  /-- A plan is to come from a database, and none is given. -/
  | noConnection
  | astUnread (source : Source) (error : ReadError)
  | astInvalid (error : ParseError)
  | analysis (error : ServiceError)
deriving DecidableEq, Repr

/-- A source, when it cannot be read. -/
def Source.unread : Source → String
  | .standardInput => "failed to read standard input"
  | .file path => "failed to read " ++ path

namespace Failure

/-- The messages of a failure and of what lies behind it, outermost first. -/
def chain : Failure → List String
  | .manyStandardInputs => [Command.manyStandardInputs]
  | .sqlUnread source error => ["failed to read SQL", source.unread, error.message]
  | .noExplain => ["manual mode requires --explain pointing to EXPLAIN JSON"]
  | .explainUnread source error => ["failed to read explain JSON", source.unread, error.message]
  | .noConnection => ["connected mode requires --conn with PostgreSQL connection string"]
  | .astUnread source error => ["failed to read AST", source.unread, error.message]
  | .astInvalid error => ["failed to load AST", error.message]
  | .analysis error => "analysis failed" :: error.chain

def message (f : Failure) : String :=
  ": ".intercalate f.chain

end Failure

end QueryAdvisor.Command
