import QueryAdvisor.Command.Failure
import QueryAdvisor.Command.Trail
import QueryAdvisor.Report.Table
import QueryAdvisor.Service.Default

/-!
# Running a command

A run reads its inputs in a fixed order, analyses them and prints the response
in the chosen format. The first stage that fails ends the run: nothing is
printed then, and no later input is read.
-/

namespace QueryAdvisor.Command

/-- A response in a format. -/
def Options.rendered (o : Options) (r : Response) : String :=
  match o.format with
  | .json => r.toTree.toPrettyJson
  | .text => r.toText o.text
  | .table => suggestionTable r.suggestions

/-- What is printed of a response: no white space at the end but one newline. -/
def Options.output (o : Options) (r : Response) : String :=
  Text.trimmedBack (o.rendered r) ++ "\n"

/-- The paths of all inputs. -/
def Options.paths (o : Options) : List String :=
  o.sql :: o.explain.toList ++ o.ast.toList

/-- What a run told about itself, and what it printed. -/
structure Report where
  events : List Log.Event
  outcome : Except Failure String

namespace Report

/-- Zero if and only if the run succeeded. -/
def exitCode (r : Report) : Nat :=
  match r.outcome with
  | .ok _ => 0
  | .error _ => 1

/-- What is printed on standard output. -/
def printed (r : Report) : String :=
  match r.outcome with
  | .ok output => output
  | .error _ => ""

/-- What is reported on standard error. -/
def complaint (r : Report) : String :=
  match r.outcome with
  | .ok _ => ""
  | .error failure => failure.message

end Report

/-- A stage that reads inputs and may fail. -/
abbrev Stage (α : Type) := Reading (Except Failure α)

namespace Stage

/-- Goes on to the next stage unless this one failed. -/
def andThen {α β : Type} (stage : Stage α) (next : α → Stage β) : Stage β :=
  Reading.andThen
    (fun
      | .ok a => next a
      | .error failure => .done (.error failure))
    stage

/-- Reads the input at a path. -/
def input (path : String) (unread : Source → ReadError → Failure) : Stage String :=
  let source := Source.ofPath path
  .ask source fun
    | .ok text => .done (.ok text)
    | .error error => .done (.error (unread source error))

end Stage

/-- Refuses options that need standard input more than once. -/
def checkInputs (o : Options) : Stage Unit :=
  .done (if atMostOneStandardInput o.paths then .ok () else .error .manyStandardInputs)

/-- The request for a query, with what its mode needs. -/
def request (o : Options) (query : String) : Stage Request :=
  match o.mode with
  | .manual =>
      match o.explain with
      | none => .done (.error .noExplain)
      | some path =>
          (Stage.input path .explainUnread).andThen fun text =>
            .done (.ok { mode := .manual, query, explainText := some text })
  | .connected =>
      let connection := o.connection.getD ""
      .done (if Text.isBlankText connection then .error .noConnection
        else .ok { mode := .connected, query, connection := some connection })

/-- What makes parse trees: a given tree, or the parser. -/
def queryParser (o : Options) : Stage QueryParser :=
  match o.ast with
  | none => .done (.ok parseSql)
  | some path =>
      (Stage.input path .astUnread).andThen fun text =>
        .done (((preparsedTree text).map preparsed).mapError .astInvalid)

/-- All that an analysis needs. -/
def prepare (provider : ExplainOptions → PlanProvider) (o : Options) :
    Stage (Service × Request) :=
  (checkInputs o).andThen fun () =>
    (Stage.input o.sql .sqlUnread).andThen fun query =>
      (request o query).andThen fun request =>
        (queryParser o).andThen fun parser =>
          let service := { parser := some parser, provider := some (provider o.explainOptions) }
          .done (.ok (service, request))

/-- Analyses a request and prints the response. -/
def analyzeAndPrint (o : Options) (service : Service) (request : Request) : Report :=
  let (steps, outcome) := service.run request
  { events := analysisEvents request.mode o.ast.isNone steps outcome
    outcome := (outcome.map o.output).mapError .analysis }

/-- Runs a command. -/
def run (provider : ExplainOptions → PlanProvider) (o : Options) : Reading Report :=
  Reading.andThen
    (fun prepared =>
      let report := match prepared with
        | .ok (service, request) => analyzeAndPrint o service request
        | .error failure => ⟨[], .error failure⟩
      .done { report with events := initialized o.logSettings :: report.events })
    (prepare provider o)

end QueryAdvisor.Command
