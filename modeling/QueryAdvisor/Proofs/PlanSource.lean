import Mathlib.Data.List.Nodup
import QueryAdvisor.Proofs.DefaultEngine
import QueryAdvisor.Proofs.JsonBlank
import QueryAdvisor.Proofs.PlanPayload
import QueryAdvisor.Proofs.RecordRead
import QueryAdvisor.Proofs.ServiceOutcome

/-!
# Where the plan comes from makes no difference

A plan is brought along in the request or asked of a database. With the
built-in rules an analysis does not depend on which of the two it was: given
the same query and the same plan, or the same failure to get one, both modes
answer alike. And a mode does not look at what belongs to the other: in manual
mode neither the connection nor the provider counts, in connected mode the
text of the plan does not.

Both come from one description of an analysis with the built-in rules.
`answer` says what becomes of an accepted request, and its arguments are the
tree of the query and the plan, either of which may have failed to come; the
request and the mode do not occur in it. The rest is to see which requests are
accepted.
-/

namespace QueryAdvisor

/-- A payload that can be read is an object. -/
theorem exists_fields_of_decodePlan {text : String} {plan : Tree}
    (h : decodePlan text = .ok plan) : ∃ fields, plan = .object fields := by
  rw [decodePlan] at h
  split at h
  · cases h
  · next payload _ =>
      obtain ⟨fields, hplan, -⟩ := normalizePlan_eq_ok_iff.mp h
      exact ⟨fields, hplan⟩

namespace Service

/-- What there is of a query's tree; without a parser there is none. -/
def readQuery (parser : Option QueryParser) (query : String) : Except ParseError (Option Tree) :=
  match parser with
  | none => .ok none
  | some parse => (parse query).map some

/-- What the built-in rules make of the tree of a query and its plan. -/
def answer : Except ParseError (Option Tree) → Except PlanError Tree →
    Except ServiceError Response
  | .error e, _ => .error (.parse e)
  | .ok _, .error e => .error (.plan e)
  | .ok ast, .ok plan =>
      .ok { ast, plan := some plan,
            suggestions := scanSuggestions (some plan) ++ patternSuggestions ast
              ++ functionSuggestions ast }

theorem exists_parses_readQuery (s : Service) (r : Request) :
    ∃ calls, Parses s r calls (readQuery s.parser r.query) := by
  cases hp : s.parser with
  | none => exact ⟨_, .unread hp⟩
  | some parse => exact ⟨_, .read hp⟩

/-- An accepted request is answered from the tree and the plan alone. -/
theorem analyze_eq_answer {s : Service} {r : Request} (hengine : s.engine = Engine.default)
    (ha : Accepted s r) {calls : List Call} {plan : Except PlanError Tree}
    (hx : Plans s r calls plan) : s.analyze r = answer (readQuery s.parser r.query) plan := by
  obtain ⟨parsing, hp⟩ := exists_parses_readQuery s r
  cases hread : readQuery s.parser r.query with
  | error e =>
      rw [hread] at hp
      exact ((ends_iff s r _ _).mp (.unparsed ha hp)).2.symm
  | ok ast =>
      rw [hread] at hp
      cases plan with
      | error e => exact ((ends_iff s r _ _).mp (.unplanned ha hp hx)).2.symm
      | ok plan =>
          have heval := evaluate_default_eq (ruleInput r ast plan)
          rw [← hengine] at heval
          exact ((ends_iff s r _ _).mp (.answered ha hp hx heval)).2.symm

/-! ## What a mode does not look at -/

/-- Two services and a request to each that differ at most in what the mode of
the requests does not look at. -/
structure Alike (s : Service) (r : Request) (s' : Service) (r' : Request) : Prop where
  parser : s.parser = s'.parser
  mode : r.mode = r'.mode
  query : r.query = r'.query
  explainText : r.mode = .manual → r.explainText = r'.explainText
  connection : r.mode = .connected → r.connection = r'.connection
  provider : r.mode = .connected → s.provider = s'.provider

theorem Alike.symm {s s' : Service} {r r' : Request} (h : Alike s r s' r') : Alike s' r' s r where
  parser := h.parser.symm
  mode := h.mode.symm
  query := h.query.symm
  explainText hm := (h.explainText (h.mode.trans hm)).symm
  connection hm := (h.connection (h.mode.trans hm)).symm
  provider hm := (h.provider (h.mode.trans hm)).symm

theorem Alike.refused {s s' : Service} {r r' : Request} (h : Alike s r s' r') {e : ServiceError}
    (he : Refused s r e) : Refused s' r' e := by
  cases he with
  | missingQuery hq => exact .missingQuery (h.query ▸ hq)
  | missingExplainText hq hm ht =>
      exact .missingExplainText (h.query ▸ hq) (h.mode ▸ hm) (h.explainText hm ▸ ht)
  | missingConnection hq hm hc =>
      exact .missingConnection (h.query ▸ hq) (h.mode ▸ hm) (h.connection hm ▸ hc)
  | noPlanProvider hq hm hc hp =>
      exact .noPlanProvider (h.query ▸ hq) (h.mode ▸ hm) (h.connection hm ▸ hc)
        (h.provider hm ▸ hp)

theorem Alike.plans {s s' : Service} {r r' : Request} (h : Alike s r s' r') {calls : List Call}
    {plan : Except PlanError Tree} (hx : Plans s r calls plan) : Plans s' r' calls plan := by
  cases hx with
  | given hm ht => exact .given (h.mode ▸ hm) (h.explainText hm ▸ ht)
  | asked hm hp hc =>
      rw [h.query]
      exact .asked (h.mode ▸ hm) (h.provider hm ▸ hp) (h.connection hm ▸ hc)

theorem Alike.analyze_eq {s s' : Service} {r r' : Request} (h : Alike s r s' r')
    (hs : s.engine = Engine.default) (hs' : s'.engine = Engine.default) :
    s.analyze r = s'.analyze r' := by
  -- a refusal is an answer of its own, and the same complaint applies to both requests
  by_cases ha : Accepted s r
  · have ha' : Accepted s' r' := fun e he => ha e (h.symm.refused he)
    obtain ⟨calls, plan, hx⟩ := exists_plans ha
    rw [analyze_eq_answer hs ha hx, analyze_eq_answer hs' ha' (h.plans hx), h.parser, h.query]
  · obtain ⟨e, he⟩ := not_forall_not.mp ha
    have hleft := ((ends_iff s r _ _).mp (.refused he)).2
    have hright := ((ends_iff s' r' _ _).mp (.refused (h.refused he))).2
    rw [← hleft, ← hright]

/-! ## The two modes -/

/-- A service with the built-in rules. -/
def withRules (parser : Option QueryParser) (provider : Option PlanProvider) : Service :=
  { engine := Engine.default, parser, provider }

theorem not_missing {text : String} (h : Text.trimmed text ≠ "") : ¬ Missing (some text) :=
  fun hm => h (hm text rfl)

theorem accepted_manual (s : Service) {q t : String} (hq : Text.trimmed q ≠ "")
    (ht : Text.trimmed t ≠ "") : Accepted s (.manual q t) := by
  intro e he
  cases he with
  | missingQuery hblank => exact hq hblank
  | missingExplainText _ _ hmissing => exact not_missing ht hmissing
  | missingConnection _ hm _ | noPlanProvider _ hm _ _ => cases hm

theorem accepted_connected (parser : Option QueryParser) (provider : PlanProvider)
    {q connection : String} (hq : Text.trimmed q ≠ "") (hc : Text.trimmed connection ≠ "") :
    Accepted (withRules parser (some provider)) (.connected q connection) := by
  intro e he
  cases he with
  | missingQuery hblank => exact hq hblank
  | missingExplainText _ hm _ => cases hm
  | missingConnection _ _ hmissing => exact not_missing hc hmissing
  | noPlanProvider _ _ _ hp => cases hp

theorem analyze_manual (parser : Option QueryParser) (provider : Option PlanProvider)
    {q t : String} (hq : Text.trimmed q ≠ "") (ht : Text.trimmed t ≠ "") :
    (withRules parser provider).analyze (.manual q t)
      = answer (readQuery parser q) (decodePlan t) :=
  analyze_eq_answer rfl (accepted_manual _ hq ht) (.given rfl rfl)

theorem analyze_connected (parser : Option QueryParser) (provider : PlanProvider)
    {q connection : String} (hq : Text.trimmed q ≠ "") (hc : Text.trimmed connection ≠ "") :
    (withRules parser (some provider)).analyze (.connected q connection)
      = answer (readQuery parser q) (provider connection q) :=
  analyze_eq_answer rfl (accepted_connected parser provider hq hc) (.asked rfl rfl rfl)

/-- Why an analysis fails that gets no plan: the query comes first. -/
def firstFailure (ast : Except ParseError (Option Tree)) (e : PlanError) : ServiceError :=
  match ast with
  | .error cause => .parse cause
  | .ok _ => .plan e

theorem answer_error (ast : Except ParseError (Option Tree)) (e : PlanError) :
    answer ast (.error e) = .error (firstFailure ast e) := by
  cases ast <;> rfl

/-- A response in manual mode holds the plan as it was read. -/
theorem exists_fields_of_manual {s : Service} {r : Request} {response : Response}
    (hm : r.mode = .manual) (h : s.analyze r = .ok response) :
    ∃ fields, response.plan = some (.object fields) := by
  have hends : Ends s r (s.calls r) (.ok response) := (ends_iff s r _ _).mpr ⟨rfl, h.symm⟩
  generalize s.calls r = calls at hends
  cases hends with
  | @answered _ planning _ plan _ _ _ hx _ =>
      generalize hplan : (Except.ok plan : Except PlanError Tree) = outcome at hx
      cases hx with
      | given _ _ =>
          obtain ⟨fields, rfl⟩ := exists_fields_of_decodePlan hplan.symm
          exact ⟨fields, rfl⟩
      | asked hm' _ _ => rw [hm] at hm'; cases hm'

/-- With the built-in rules a plan has the same effect from either source, and
so has the failure to get one. Neither mode looks at what belongs to the other,
and a response in manual mode always holds a plan object. -/
theorem plan_sources_interchangeable (parser : Option QueryParser) :
    (∀ (q connection t : String) (provider : PlanProvider) (p : Tree),
      Text.trimmed q ≠ "" → Text.trimmed connection ≠ "" →
      decodePlan t = .ok p → provider connection q = .ok p →
        Text.trimmed t ≠ "" ∧
          (withRules parser none).analyze (.manual q t)
            = (withRules parser (some provider)).analyze (.connected q connection)) ∧
      (∀ (q connection t : String) (provider : PlanProvider) (e : PlanError),
        Text.trimmed q ≠ "" → Text.trimmed connection ≠ "" → Text.trimmed t ≠ "" →
        decodePlan t = .error e → provider connection q = .error e →
          (withRules parser none).analyze (.manual q t)
              = .error (firstFailure (readQuery parser q) e) ∧
            (withRules parser (some provider)).analyze (.connected q connection)
              = .error (firstFailure (readQuery parser q) e)) ∧
      (∀ q t connection connection' provider provider',
        (withRules parser provider).analyze ⟨.manual, connection, q, t⟩
          = (withRules parser provider').analyze ⟨.manual, connection', q, t⟩) ∧
      (∀ q connection provider t t',
        (withRules parser provider).analyze ⟨.connected, connection, q, t⟩
          = (withRules parser provider).analyze ⟨.connected, connection, q, t'⟩) ∧
      ∀ provider r response, r.mode = .manual →
        (withRules parser provider).analyze r = .ok response →
          ∃ fields, response.plan = some (.object fields) := by
  refine ⟨?_, ?_, ?_, ?_, fun provider r response => exists_fields_of_manual⟩
  · intro q connection t provider p hq hc hdecode hprovider
    have ht := trimmed_ne_empty_of_decodePlan hdecode
    refine ⟨ht, ?_⟩
    rw [analyze_manual parser none hq ht, analyze_connected parser provider hq hc, hdecode,
      hprovider]
  · intro q connection t provider e hq hc ht hdecode hprovider
    rw [analyze_manual parser none hq ht, analyze_connected parser provider hq hc, hdecode,
      hprovider, answer_error]
    exact ⟨rfl, rfl⟩
  · intro q t connection connection' provider provider'
    exact Alike.analyze_eq ⟨rfl, rfl, rfl, fun _ => rfl, nofun, nofun⟩ rfl rfl
  · intro q connection provider t t'
    exact Alike.analyze_eq ⟨rfl, rfl, rfl, nofun, fun _ => rfl, fun _ => rfl⟩ rfl rfl

/-- The payload of a sequential scan with another one below it. -/
def nestedScansText : String :=
  "[\x7b\"Plan\":\x7b\"Node Type\":\"Seq Scan\",\"Plans\":[\x7b\"Node Type\":\"Seq Scan\"\x7d]\x7d\x7d]"

theorem decodePlan_nestedScansText :
    decodePlan nestedScansText = .ok (.object [("Plan", .object nestedScans)]) := by
  have hkeys : ["Node Type", "Plans"].Nodup := by decide
  have hscans : (Tree.object nestedScans).Exact :=
    ⟨hkeys, trivial, ⟨⟨List.nodup_singleton _, trivial, trivial⟩, trivial⟩, trivial⟩
  have hexact : (Tree.list [.object [("Plan", .object nestedScans)]]).Exact :=
    ⟨⟨List.nodup_singleton _, hscans, trivial⟩, trivial⟩
  have hspells : Json.Spells _ nestedScansText.toList := Json.spells_compact hexact
  rw [decodePlan, Json.eq_ok_of_mapError (Json.ofJson_of_spells hspells hexact)]
  rfl

/-- Two scans and an empty list, from either source and with a parse tree. -/
theorem plan_sources_of_nested_scans :
    let parser : Option QueryParser := some (preparsed (.object [("stmts", .list [])]))
    let plan : Tree := .object [("Plan", .object nestedScans)]
    decodePlan nestedScansText = .ok plan ∧
      (withRules parser none).analyze (.manual "SELECT 1" nestedScansText)
        = (withRules parser (some fun _ _ => .ok plan)).analyze
            (.connected "SELECT 1" "host=db") ∧
      (∃ response fields,
        (withRules parser none).analyze (.manual "SELECT 1" nestedScansText) = .ok response ∧
          response.plan = some (.object fields) ∧ response.countBySeverity .high = 2) ∧
      decodePlan "[]" = .error .emptyResult ∧
      (withRules parser none).analyze (.manual "SELECT 1" "[]") = .error (.plan .emptyResult) := by
  intro parser plan
  have hq : Text.trimmed "SELECT 1" ≠ "" := by decide
  have hc : Text.trimmed "host=db" ≠ "" := by decide
  have hobject := decodePlan_nestedScansText
  have hlist : decodePlan "[]" = .error .emptyResult := rfl
  obtain ⟨hread, hunread, -, -, hplan⟩ := plan_sources_interchangeable parser
  obtain ⟨ht, hsame⟩ := hread _ _ _ (fun _ _ => .ok plan) _ hq hc hobject rfl
  have hanswer := analyze_manual parser none hq ht
  rw [hobject] at hanswer
  obtain ⟨fields, hfields⟩ := hplan none (.manual "SELECT 1" nestedScansText) _ rfl hanswer
  refine ⟨hobject, hsame, ⟨_, fields, hanswer, hfields, ?_⟩, hlist, ?_⟩
  · exact (Response.grades_suggestions (some plan) _ _ _).high
  · exact (hunread _ _ _ (fun _ _ => .error .emptyResult) _ hq hc (by decide) hlist rfl).1

end Service

end QueryAdvisor
