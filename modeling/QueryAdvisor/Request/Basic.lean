import QueryAdvisor.Json.Record
import QueryAdvisor.Request.Mode

/-!
# Requests

A request is a query and what is needed to obtain its execution plan. Absent
fields are left out when a request is written.
-/

namespace QueryAdvisor

/-- One analysis request. -/
structure Request where
  mode : Mode := .manual
  /-- The database to ask, in connected mode. -/
  connection : Option String := none
  query : String := ""
  /-- The text of the execution plan, in manual mode. -/
  explainText : Option String := none
deriving DecidableEq, Repr

namespace Request

/-- A request that brings its plan along. -/
def manual (query explainText : String) : Request :=
  { mode := .manual, query, explainText := some explainText }

/-- A request whose plan is asked of a database. -/
def connected (query connection : String) : Request :=
  { mode := .connected, query, connection := some connection }

/-- A field with a text, or no field. -/
def optionalField (key : String) : Option String → Fields
  | none => []
  | some s => [(key, .text s)]

def toTree (r : Request) : Tree :=
  .object
    ([("mode", .text r.mode.name)] ++ optionalField "connection_string" r.connection
      ++ [("query", .text r.query)] ++ optionalField "explain_json" r.explainText)

/-- What is known of a request while it is read. -/
structure Draft where
  mode : Option Mode := none
  connection : Option (Option String) := none
  query : Option String := none
  explainText : Option (Option String) := none

def Draft.build (d : Draft) : Except String Request :=
  match d.mode, d.query with
  | none, _ => .error "mode"
  | _, none => .error "query"
  | some mode, some query =>
      .ok { mode, connection := d.connection.join, query, explainText := d.explainText.join }

/-- A request needs its mode and its query. -/
def shape : Json.Shape Draft Request where
  name := "AnalyzeRequest"
  slots :=
    [⟨"mode", fun d => d.mode.isSome,
        fun d => do pure { d with mode := some (← Json.variant Mode.all) }, false⟩,
      ⟨"connection_string", fun d => d.connection.isSome,
        fun d => do pure { d with connection := some (← Json.optional Json.text) }, true⟩,
      ⟨"query", fun d => d.query.isSome,
        fun d => do pure { d with query := some (← Json.text) }, false⟩,
      ⟨"explain_json", fun d => d.explainText.isSome,
        fun d => do pure { d with explainText := some (← Json.optional Json.text) }, true⟩]
  start := {}
  build := Draft.build

/-- Reads a request from its JSON text. -/
def ofJson (text : String) : Except Json.Fault Request :=
  Json.readAll (shape.reader (Json.roundBound text)) text

end Request

end QueryAdvisor
