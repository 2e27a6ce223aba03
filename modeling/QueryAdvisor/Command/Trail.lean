import QueryAdvisor.Command.Options
import QueryAdvisor.Log.Event
import QueryAdvisor.Service.Basic

/-!
# The trail of a run

What a run tells about itself: the events that belong to the steps of the
service, inside the span of the analysis, between those of the command.
-/

namespace QueryAdvisor.Command

open Log

/-- The command itself. -/
def commandTarget : String := "optiviz"

def serviceTarget : String := "optiviz_services::analyzer_service"

def analysisSpan : Span := ⟨"analyze", .info, serviceTarget⟩

def explainSpan : Span := ⟨"explain", .info, "optiviz_services::plan_provider"⟩

/-- The first event of a run. -/
def initialized (settings : Settings) : Event where
  level := .debug
  target := "optiviz::logging"
  message := "Logging system initialized"
  fields := [("filter", .text settings.filter), ("json", .bool settings.json)]

/-- The analysis is about to start. -/
def analyzing (mode : Mode) : Event where
  level := .info
  target := commandTarget
  message := "analyzing query"
  fields := [("mode", .text mode.name)]

/-- The number of statements in a parse tree. -/
def statementCount (ast : Tree) : Nat :=
  ((ast.list? "stmts").getD []).length

/-- A plan could not be obtained. -/
def planFailed (error : PlanError) : Event where
  level := .warn
  target := serviceTarget
  message := "failed to obtain execution plan"
  fields := [("error", .text error.message)]
  within := [analysisSpan]

/-- The events of a plan that was obtained or not. -/
def planEvents : Except PlanError Tree → List Event
  | .ok _ => []
  | .error error => [planFailed error]

/-- The events of a step. A parse tree that was given is not parsed. -/
def stepEvents (isParsed : Bool) : Step → List Event
  | .parsed _ (.ok ast) =>
      if isParsed then
        [{ level := .debug
           target := "optiviz_services::ast_builder"
           message := "parsed query"
           fields := [("statements", .nat (statementCount ast))]
           within := [analysisSpan] }]
      else []
  | .parsed _ (.error error) =>
      [{ level := .warn
         target := serviceTarget
         message := "failed to parse query"
         fields := [("error", .text error.message)]
         within := [analysisSpan] }]
  | .decoded outcome => planEvents outcome
  | .explained _ _ outcome => explainSpan.around [analysisSpan] [] ++ planEvents outcome
  | .evaluated _ => []
  | .applied rule =>
      [{ level := .debug
         target := "optiviz_analyzer::rules::engine"
         message := "rule applied"
         fields := [("rule", .text rule.rule), ("suggestions", .nat rule.suggestions)]
         within := [analysisSpan] }]
  | .completed suggestions =>
      [{ level := .debug
         target := serviceTarget
         message := "analysis complete"
         fields := [("suggestions", .nat suggestions)]
         within := [analysisSpan] }]

/-- The event of a rule that failed. -/
def failedRule : Except ServiceError Response → List Event
  | .error (.engine error) =>
      [{ level := .warn
         target := "optiviz_analyzer::rules::engine"
         message := "rule failed"
         fields := [("error", .text error.cause.message), ("rule", .text error.rule)]
         within := [analysisSpan] }]
  | _ => []

/-- How long the database took, as far as the plan tells. -/
def timingEvents (r : Response) : List Event :=
  match r.plan.bind planTiming? with
  | none => []
  | some timing =>
      [{ level := .info
         target := commandTarget
         message := "plan timing"
         fields := time "execution_ms" timing.execution ++ time "planning_ms" timing.planning }]
where
  /-- A time, if it is known. -/
  time (name : String) : Option Binary64 → Fields
    | some x => [(name, .number (.float x))]
    | none => []

/-- The events of an analysis. -/
def analysisEvents (mode : Mode) (isParsed : Bool) (steps : List Step)
    (outcome : Except ServiceError Response) : List Event :=
  analyzing mode
    :: analysisSpan.around [] (steps.flatMap (stepEvents isParsed) ++ failedRule outcome)
    ++ (match outcome with
        | .ok response => timingEvents response
        | .error _ => [])

end QueryAdvisor.Command
