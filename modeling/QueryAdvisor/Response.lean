import QueryAdvisor.Suggestion

/-!
# Responses

A response holds the parse tree and the execution plan that were examined, if
there were any, and the suggestions in the order in which they were made.
-/

namespace QueryAdvisor

/-- The answer to a request. -/
structure Response where
  ast : Option Tree := none
  plan : Option Tree := none
  suggestions : List Suggestion := []

namespace Response

/-- Whether any suggestion is of high severity. -/
def hasHighSeverity (r : Response) : Bool :=
  r.suggestions.any fun s => s.severity == .high

/-- How many suggestions are of a severity. -/
def countBySeverity (r : Response) (severity : Severity) : Nat :=
  (r.suggestions.filter fun s => s.severity == severity).length

/-- The highest severity among the suggestions. -/
def maxSeverity? (r : Response) : Option Severity :=
  Severity.maximum? (r.suggestions.map Suggestion.severity)

def toTree (r : Response) : Tree :=
  .object
    [("ast", .ofOption r.ast), ("explain_plan", .ofOption r.plan),
      ("suggestions", .list (r.suggestions.map Suggestion.toTree))]

/-- What is known of a response while it is read. -/
structure Draft where
  ast : Option (Option Tree) := none
  plan : Option (Option Tree) := none
  suggestions : Option (List Suggestion) := none

def Draft.build (d : Draft) : Except String Response :=
  match d.suggestions with
  | none => .error "suggestions"
  | some suggestions => .ok { ast := d.ast.join, plan := d.plan.join, suggestions }

/-- A response needs its suggestions. The response itself takes one level of
the depth its trees may have. -/
def shape (bound : Nat) : Json.Shape Draft Response where
  name := "AnalyzeResponse"
  slots :=
    [⟨"ast", fun d => d.ast.isSome,
        fun d => do
          pure { d with ast := some (← Json.optional (Json.value bound (Json.maxDepth - 1))) },
        false⟩,
      ⟨"explain_plan", fun d => d.plan.isSome,
        fun d => do
          pure { d with plan := some (← Json.optional (Json.value bound (Json.maxDepth - 1))) },
        false⟩,
      ⟨"suggestions", fun d => d.suggestions.isSome,
        fun d => do
          let suggestions ← Json.listOf bound (Suggestion.shape.reader bound)
          pure { d with suggestions := some suggestions },
        false⟩]
  start := {}
  build := Draft.build

/-- Reads a response from its JSON text. -/
def ofJson (text : String) : Except Json.Fault Response :=
  let bound := Json.roundBound text
  Json.readAll ((shape bound).reader bound) text

end Response

end QueryAdvisor
