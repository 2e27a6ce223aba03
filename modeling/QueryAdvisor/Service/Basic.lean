import QueryAdvisor.Plan.Payload
import QueryAdvisor.Response
import QueryAdvisor.Rule.Engine
import QueryAdvisor.Text.Blank

/-!
# The analysis service

A service checks a request, obtains the parse tree of its query and its
execution plan, and runs the rules over both. A parser is optional: without
one the rules see no parse tree. A provider of plans is optional too: without
one there is no connected mode. The first stage that fails decides the
outcome, and no later stage is entered; the steps taken are reported along
with the outcome.
-/

namespace QueryAdvisor

/-- Why there is no parse tree. -/
inductive ParseError where
  /-- The query is no SQL; `message` says what the parser reports. -/
  | malformedQuery (message : String)
  | invalidTree (message : String)
deriving DecidableEq, Repr

def ParseError.message : ParseError → String
  | .malformedQuery message => "syntax error: " ++ message
  | .invalidTree message => "invalid AST JSON: " ++ message

/-- Makes a parse tree of a query. -/
abbrev QueryParser := String → Except ParseError Tree

/-- Obtains the plan of a query from the database that a connection string names. -/
abbrev PlanProvider := (connection query : String) → Except PlanError Tree

/-- Answers every query with one parse tree. -/
def preparsed (ast : Tree) : QueryParser :=
  fun _ => .ok ast

/-- Reads the parse tree that answers every query from its JSON text. -/
def preparsedTree (text : String) : Except ParseError Tree :=
  match Tree.ofJson text with
  | .ok ast => .ok ast
  | .error fault => .error (.invalidTree ("Serialization error: " ++ fault.message text))

/-- Why a request has no response. -/
inductive ServiceError where
  | missingQuery
  | missingExplainText
  | missingConnection
  | noPlanProvider
  | parse (cause : ParseError)
  | plan (cause : PlanError)
  | engine (cause : EngineError)
deriving DecidableEq, Repr

namespace ServiceError

def message : ServiceError → String
  | .missingQuery => "query is required"
  | .missingExplainText => "explain_json is required for manual mode"
  | .missingConnection => "connection_string is required for connected mode"
  | .noPlanProvider => "connected mode is not available: no plan provider configured"
  | .parse cause => "parse query: " ++ cause.message
  | .plan cause => "obtain plan: " ++ cause.message
  | .engine cause => "evaluate rules: " ++ cause.message

/-- Whether the request was incomplete, rather than a stage failed. -/
def isValidation : ServiceError → Bool
  | .missingQuery | .missingExplainText | .missingConnection | .noPlanProvider => true
  | _ => false

/-- The messages of an error and of what lies behind it, outermost first. -/
def chain (e : ServiceError) : List String :=
  e.message ::
    match e with
    | .parse cause => [cause.message]
    | .plan cause => cause.message :: cause.source?.toList
    | .engine cause => [cause.message, cause.cause.message]
    | _ => []

end ServiceError

/-- What a service did on behalf of a request. -/
inductive Step where
  /-- The parser was given a query. -/
  | parsed (query : String) (outcome : Except ParseError Tree)
  /-- A plan was read from the request. -/
  | decoded (outcome : Except PlanError Tree)
  /-- The provider was asked for a plan. -/
  | explained (connection query : String) (outcome : Except PlanError Tree)
  /-- The rules were given their input. -/
  | evaluated (input : RuleInput)
  /-- A rule was applied. -/
  | applied (rule : Applied)
  /-- All rules were applied. -/
  | completed (suggestions : Nat)

/-- An engine and its collaborators. -/
structure Service where
  engine : Engine := Engine.default
  parser : Option QueryParser := none
  provider : Option PlanProvider := none

namespace Service

/-- Whether a text is absent or has nothing but white space. -/
def isMissing : Option String → Bool
  | none => true
  | some s => Text.isBlankText s

/-- Refuses a request that is incomplete. -/
def validate (s : Service) (r : Request) : Except ServiceError Unit :=
  if Text.isBlankText r.query then .error .missingQuery
  else
    match r.mode with
    | .manual => if isMissing r.explainText then .error .missingExplainText else .ok ()
    | .connected =>
        if isMissing r.connection then .error .missingConnection
        else if s.provider.isNone then .error .noPlanProvider
        else .ok ()

/-- Steps taken, and how a stage came out. -/
abbrev Staged (α : Type) := List Step × Except ServiceError α

/-- Goes on to the next stage unless this one failed. -/
def andThen {α β : Type} (stage : Staged α) (next : α → Staged β) : Staged β :=
  match stage with
  | (steps, .error e) => (steps, .error e)
  | (steps, .ok a) => (steps ++ (next a).1, (next a).2)

/-- The parse tree of the request's query, if there is a parser. -/
def parseQuery (s : Service) (r : Request) : Staged (Option Tree) :=
  match s.parser with
  | none => ([], .ok none)
  | some parse =>
      let outcome := parse r.query
      ([.parsed r.query outcome], (outcome.map some).mapError .parse)

/-- The execution plan of a request. -/
def obtainPlan (s : Service) (r : Request) : Staged Tree :=
  match r.mode with
  | .manual =>
      let outcome := decodePlan (r.explainText.getD "")
      ([.decoded outcome], outcome.mapError .plan)
  | .connected =>
      match s.provider with
      | none => ([], .error .noPlanProvider)
      | some explain =>
          let connection := r.connection.getD ""
          let outcome := explain connection r.query
          ([.explained connection r.query outcome], outcome.mapError .plan)

/-- The suggestions of the rules on a request and its trees. -/
def applyRules (s : Service) (r : Request) (ast : Option Tree) (plan : Tree) :
    Staged (List Suggestion) :=
  let input : RuleInput := { ast, plan := some plan, request := r }
  let (applied, outcome) := s.engine.run input
  let completed := match outcome with
    | .ok suggestions => [Step.completed suggestions.length]
    | .error _ => []
  (.evaluated input :: applied.map Step.applied ++ completed, outcome.mapError .engine)

/-- Analyses a request, and tells the steps taken. -/
def run (s : Service) (r : Request) : Staged Response :=
  andThen ([], s.validate r) fun () =>
    andThen (s.parseQuery r) fun ast =>
      andThen (s.obtainPlan r) fun plan =>
        andThen (s.applyRules r ast plan) fun suggestions =>
          ([], .ok { ast, plan := some plan, suggestions })

/-- The response to a request, or the error of the first stage that failed. -/
def analyze (s : Service) (r : Request) : Except ServiceError Response :=
  (s.run r).2

/-- A service and what it has, for display. -/
def describe (s : Service) : String :=
  "AnalyzerService \x7b engine: " ++ s.engine.describe
    ++ ", parser: " ++ (if s.parser.isSome then "true" else "false")
    ++ ", plan_provider: " ++ (if s.provider.isSome then "true" else "false") ++ " \x7d"

end Service

end QueryAdvisor
