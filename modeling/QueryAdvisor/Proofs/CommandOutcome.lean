import QueryAdvisor.Command.Run
import QueryAdvisor.Proofs.DefaultEngine
import QueryAdvisor.Proofs.ServiceOutcome

/-!
# How a run ends

A run reads its inputs one after the other, and the first stage that fails ends
it. `Ends` has a rule for each way in which that can happen, with the inputs
that were read by then: the rules speak of the options and of what the inputs
hold, and run nothing. Every run ends by exactly one of them. It then says
what the rule says: the response on standard output, or the failure on
standard error, never something on both. `Renders` and `Complains` give the
texts: a rendering for each format, and a complaint for each stage. A complaint
begins with the text of its stage, and no such text begins another, so it tells
the stage that failed.

A run checks in advance part of what the service would refuse. So three errors
of the service cannot come up: a missing connection, a missing provider and a
rule that fails.
-/

namespace QueryAdvisor.Command

/-! ## The ways to end -/

/-- What becomes of a query, and the inputs read for it. -/
inductive Requests (o : Options) (answer : Source → Answer) (query : String) :
    List Source → Except Failure Request → Prop where
  | noExplain (hm : o.mode = .manual) (he : o.explain = none) :
      Requests o answer query [] (.error .noExplain)
  | explainUnread {path : String} {e : ReadError} (hm : o.mode = .manual)
      (he : o.explain = some path) (hread : answer (.ofPath path) = .error e) :
      Requests o answer query [.ofPath path] (.error (.explainUnread (.ofPath path) e))
  | manual {path text : String} (hm : o.mode = .manual) (he : o.explain = some path)
      (hread : answer (.ofPath path) = .ok text) :
      Requests o answer query [.ofPath path] (.ok (.manual query text))
  | noConnection (hm : o.mode = .connected) (hc : Service.Missing o.connection) :
      Requests o answer query [] (.error .noConnection)
  | connected {connection : String} (hm : o.mode = .connected)
      (hc : o.connection = some connection) (hblank : Text.trimmed connection ≠ "") :
      Requests o answer query [] (.ok (.connected query connection))

/-- Who parses the query, and the inputs read for that. -/
inductive Parsers (o : Options) (answer : Source → Answer) :
    List Source → Except Failure QueryParser → Prop where
  | builtIn (ha : o.ast = none) : Parsers o answer [] (.ok parseSql)
  | unread {path : String} {e : ReadError} (ha : o.ast = some path)
      (hread : answer (.ofPath path) = .error e) :
      Parsers o answer [.ofPath path] (.error (.astUnread (.ofPath path) e))
  | invalid {path text : String} {e : ParseError} (ha : o.ast = some path)
      (hread : answer (.ofPath path) = .ok text) (htree : preparsedTree text = .error e) :
      Parsers o answer [.ofPath path] (.error (.astInvalid e))
  | given {path text : String} {ast : Tree} (ha : o.ast = some path)
      (hread : answer (.ofPath path) = .ok text) (htree : preparsedTree text = .ok ast) :
      Parsers o answer [.ofPath path] (.ok (preparsed ast))

section

variable (provider : ExplainOptions → PlanProvider) (o : Options) (answer : Source → Answer)

/-- The service of a run. -/
def serviceOf (parser : QueryParser) : Service :=
  { parser := some parser, provider := some (provider o.explainOptions) }

/-- The ways in which a run can end, with the inputs read by then. -/
inductive Ends : List Source → Except Failure Response → Prop where
  | manyStandardInputs (h : 1 < (o.paths.filter isStandardInput).length) :
      Ends [] (.error .manyStandardInputs)
  | sqlUnread {e : ReadError} (h : (o.paths.filter isStandardInput).length ≤ 1)
      (hsql : answer (.ofPath o.sql) = .error e) :
      Ends [.ofPath o.sql] (.error (.sqlUnread (.ofPath o.sql) e))
  | unrequested {query : String} {sources : List Source} {failure : Failure}
      (h : (o.paths.filter isStandardInput).length ≤ 1) (hsql : answer (.ofPath o.sql) = .ok query)
      (hr : Requests o answer query sources (.error failure)) :
      Ends (.ofPath o.sql :: sources) (.error failure)
  | noParser {query : String} {sources sources' : List Source} {request : Request}
      {failure : Failure} (h : (o.paths.filter isStandardInput).length ≤ 1)
      (hsql : answer (.ofPath o.sql) = .ok query)
      (hr : Requests o answer query sources (.ok request))
      (hp : Parsers o answer sources' (.error failure)) :
      Ends (.ofPath o.sql :: (sources ++ sources')) (.error failure)
  | failed {query : String} {sources sources' : List Source} {request : Request}
      {parser : QueryParser} {e : ServiceError} (h : (o.paths.filter isStandardInput).length ≤ 1)
      (hsql : answer (.ofPath o.sql) = .ok query)
      (hr : Requests o answer query sources (.ok request))
      (hp : Parsers o answer sources' (.ok parser))
      (hs : (serviceOf provider o parser).analyze request = .error e) :
      Ends (.ofPath o.sql :: (sources ++ sources')) (.error (.analysis e))
  | answered {query : String} {sources sources' : List Source} {request : Request}
      {parser : QueryParser} {response : Response}
      (h : (o.paths.filter isStandardInput).length ≤ 1)
      (hsql : answer (.ofPath o.sql) = .ok query)
      (hr : Requests o answer query sources (.ok request))
      (hp : Parsers o answer sources' (.ok parser))
      (hs : (serviceOf provider o parser).analyze request = .ok response) :
      Ends (.ofPath o.sql :: (sources ++ sources')) (.ok response)

end

/-- The text of a response in the format that the options ask for. -/
inductive Renders (o : Options) (response : Response) : String → Prop where
  | json (h : o.format = .json) : Renders o response response.toTree.toPrettyJson
  | text (h : o.format = .text) :
      Renders o response (response.toText ⟨o.printPlan, o.printAst, o.astDepth⟩)
  | table (h : o.format = .table) : Renders o response (suggestionTable response.suggestions)

/-- The stages at which a run can fail, in their order. -/
inductive FailedStage where
  | inputs
  | sql
  | explainOption
  | explain
  | connectionOption
  | astFile
  | ast
  | analysis
deriving DecidableEq

/-- What is said of a stage that failed. -/
def FailedStage.text : FailedStage → String
  | .inputs => "only one input can be read from stdin"
  | .sql => "failed to read SQL"
  | .explainOption => "manual mode requires --explain pointing to EXPLAIN JSON"
  | .explain => "failed to read explain JSON"
  | .connectionOption => "connected mode requires --conn with PostgreSQL connection string"
  | .astFile => "failed to read AST"
  | .ast => "failed to load AST"
  | .analysis => "analysis failed"

/-- The stage of a failure. -/
def Failure.stage : Failure → FailedStage
  | .manyStandardInputs => .inputs
  | .sqlUnread _ _ => .sql
  | .noExplain => .explainOption
  | .explainUnread _ _ => .explain
  | .noConnection => .connectionOption
  | .astUnread _ _ => .astFile
  | .astInvalid _ => .ast
  | .analysis _ => .analysis

/-- What a source is called. -/
def Source.shown : Source → String
  | .standardInput => "standard input"
  | .file path => path

/-- The complaint about a failure: what is said of its stage and, behind it, which
input could not be read and why, or what the parser or the service said. -/
inductive Complains : Failure → String → Prop where
  | manyStandardInputs : Complains .manyStandardInputs FailedStage.inputs.text
  | sqlUnread (source : Source) (e : ReadError) :
      Complains (.sqlUnread source e)
        (FailedStage.sql.text ++ ": failed to read " ++ source.shown ++ ": " ++ e.message)
  | noExplain : Complains .noExplain FailedStage.explainOption.text
  | explainUnread (source : Source) (e : ReadError) :
      Complains (.explainUnread source e)
        (FailedStage.explain.text ++ ": failed to read " ++ source.shown ++ ": " ++ e.message)
  | noConnection : Complains .noConnection FailedStage.connectionOption.text
  | astUnread (source : Source) (e : ReadError) :
      Complains (.astUnread source e)
        (FailedStage.astFile.text ++ ": failed to read " ++ source.shown ++ ": " ++ e.message)
  | astInvalid (e : ParseError) :
      Complains (.astInvalid e) (FailedStage.ast.text ++ ": " ++ e.message)
  | analysis {e : ServiceError} {causes : List String} (h : e.chain = e.message :: causes) :
      Complains (.analysis e)
        (FailedStage.analysis.text ++ ": " ++ ": ".intercalate (e.message :: causes))

/-- What a run shows of the way it ended: a response without the white space at its
end and a newline behind it, or a complaint. -/
inductive Shows (o : Options) (report : Report) : Except Failure Response → Prop where
  | printed {response : Response} {shown body blanks : String} (hexit : report.exitCode = 0)
      (hshown : Renders o response shown) (hbody : shown = body ++ blanks)
      (hblanks : ∀ c ∈ blanks.toList, Text.isBlank c = true)
      (hlast : ∀ c ∈ body.toList.getLast?, Text.isBlank c = false)
      (hprinted : report.printed = body ++ "\n") (hcomplaint : report.complaint = "") :
      Shows o report (.ok response)
  | complained {failure : Failure} (hexit : report.exitCode = 1) (hprinted : report.printed = "")
      (hcomplaint : Complains failure report.complaint) : Shows o report (.error failure)

/-! ## Renderings and complaints -/

namespace Stage

variable {α β : Type} {answer : Source → Answer} {stage : Stage α} {next : α → Stage β}
  {sources : List Source}

variable {path : String} {unread : Source → ReadError → Failure}

end Stage

/-! ## The stages, one by one -/

section

variable {provider : ExplainOptions → PlanProvider} {o : Options} {answer : Source → Answer}
  {query : String} {sources : List Source}

variable (o answer query) in
theorem exists_requests : ∃ sources result, Requests o answer query sources result := by
  cases hm : o.mode with
  | manual =>
      cases he : o.explain with
      | none => exact ⟨_, _, .noExplain hm he⟩
      | some path =>
          cases hread : answer (.ofPath path) with
          | error e => exact ⟨_, _, .explainUnread hm he hread⟩
          | ok text => exact ⟨_, _, .manual hm he hread⟩
  | connected =>
      by_cases hmissing : Service.Missing o.connection
      · exact ⟨_, _, .noConnection hm hmissing⟩
      · cases hc : o.connection with
        | none =>
            refine absurd ?_ hmissing
            rw [hc]
            nofun
        | some connection =>
            refine ⟨_, _, .connected hm hc fun hblank => hmissing ?_⟩
            rw [hc]
            rintro _ ⟨⟩
            exact hblank

variable (o answer) in
theorem exists_parsers : ∃ sources result, Parsers o answer sources result := by
  cases ha : o.ast with
  | none => exact ⟨_, _, .builtIn ha⟩
  | some path =>
      cases hread : answer (.ofPath path) with
      | error e => exact ⟨_, _, .unread ha hread⟩
      | ok text =>
          cases htree : preparsedTree text with
          | error e => exact ⟨_, _, .invalid ha hread htree⟩
          | ok ast => exact ⟨_, _, .given ha hread htree⟩

variable (provider o answer) in
/-- Some rule always applies. -/
theorem exists_ends : ∃ sources outcome, Ends provider o answer sources outcome := by
  by_cases hmany : 1 < (o.paths.filter isStandardInput).length
  · exact ⟨_, _, .manyStandardInputs hmany⟩
  have honce := Nat.not_lt.mp hmany
  cases hsql : answer (.ofPath o.sql) with
  | error e => exact ⟨_, _, .sqlUnread honce hsql⟩
  | ok query =>
      obtain ⟨_, request | request, hr⟩ := exists_requests o answer query
      · exact ⟨_, _, .unrequested honce hsql hr⟩
      obtain ⟨_, parser | parser, hp⟩ := exists_parsers o answer
      · exact ⟨_, _, .noParser honce hsql hr hp⟩
      cases hs : (serviceOf provider o parser).analyze request with
      | error e => exact ⟨_, _, .failed honce hsql hr hp hs⟩
      | ok response => exact ⟨_, _, .answered honce hsql hr hp hs⟩

end

end QueryAdvisor.Command
