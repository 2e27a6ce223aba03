import QueryAdvisor.Proofs.Trim
import QueryAdvisor.Service.Basic

/-!
# How an analysis ends

A service has stages, and the first that fails decides the outcome. `Ends` says
so without running anything: one rule for each way in which an analysis can
end, with the calls that were made to the collaborators by then. The rules
speak of what the request holds and of what the collaborators answer, so they
can be read beside the list of errors.

`ends_iff` ties them to the service: the calls and the outcome of a run are the
only ones that the rules allow. Each stage is opened once, in a lemma that says
what it calls and what it returns; the way from one stage to the next is in
`observed_andThen_ok` and `observed_andThen_error`.
-/

namespace QueryAdvisor

/-- A call to a collaborator of a service. -/
inductive Call where
  | parse (query : String)
  | explain (connection query : String)
  | rules (input : RuleInput)

/-- Who is called. -/
inductive Collaborator where
  | parser
  | provider
  | engine
deriving DecidableEq

def Call.collaborator : Call → Collaborator
  | .parse _ => .parser
  | .explain _ _ => .provider
  | .rules _ => .engine

/-- The call that a step is. A plan that the request brings along is read by the
service itself, and what the engine does with its rules is its own affair. -/
def Step.call? : Step → Option Call
  | .parsed query _ => some (.parse query)
  | .explained connection query _ => some (.explain connection query)
  | .evaluated input => some (.rules input)
  | .decoded _ | .applied _ | .completed _ => none

namespace Service

/-- The calls and the result of a stage. -/
def observed {α : Type} (stage : Staged α) : List Call × Except ServiceError α :=
  (stage.1.filterMap Step.call?, stage.2)

/-- The calls that an analysis makes, in order. -/
def calls (s : Service) (r : Request) : List Call :=
  (s.run r).1.filterMap Step.call?

/-- There is no text, or nothing is left of it when it is trimmed. -/
def Missing (text : Option String) : Prop :=
  ∀ t, text = some t → Text.trimmed t = ""

/-- What is wrong with a request, the first complaint only. -/
inductive Refused (s : Service) (r : Request) : ServiceError → Prop where
  | missingQuery (hq : Text.trimmed r.query = "") : Refused s r .missingQuery
  | missingExplainText (hq : Text.trimmed r.query ≠ "") (hm : r.mode = .manual)
      (ht : Missing r.explainText) : Refused s r .missingExplainText
  | missingConnection (hq : Text.trimmed r.query ≠ "") (hm : r.mode = .connected)
      (hc : Missing r.connection) : Refused s r .missingConnection
  | noPlanProvider (hq : Text.trimmed r.query ≠ "") (hm : r.mode = .connected)
      (hc : ¬ Missing r.connection) (hp : s.provider = none) : Refused s r .noPlanProvider

/-- Nothing is wrong with a request. -/
def Accepted (s : Service) (r : Request) : Prop :=
  ∀ e, ¬ Refused s r e

/-- What is made of the query, and the calls that takes. -/
inductive Parses (s : Service) (r : Request) :
    List Call → Except ParseError (Option Tree) → Prop where
  | unread (hp : s.parser = none) : Parses s r [] (.ok none)
  | read {parse : QueryParser} (hp : s.parser = some parse) :
      Parses s r [.parse r.query] ((parse r.query).map some)

/-- Where the plan comes from, and the calls that takes. -/
inductive Plans (s : Service) (r : Request) : List Call → Except PlanError Tree → Prop where
  | given {text : String} (hm : r.mode = .manual) (ht : r.explainText = some text) :
      Plans s r [] (decodePlan text)
  | asked {explain : PlanProvider} {connection : String} (hm : r.mode = .connected)
      (hp : s.provider = some explain) (hc : r.connection = some connection) :
      Plans s r [.explain connection r.query] (explain connection r.query)

/-- What the rules are given. -/
def ruleInput (r : Request) (ast : Option Tree) (plan : Tree) : RuleInput :=
  { ast, plan := some plan, request := r }

/-- The ways in which an analysis can end, with the calls made by then. -/
inductive Ends (s : Service) (r : Request) :
    List Call → Except ServiceError Response → Prop where
  | refused {e : ServiceError} (h : Refused s r e) : Ends s r [] (.error e)
  | unparsed {parsing : List Call} {e : ParseError} (h : Accepted s r)
      (hp : Parses s r parsing (.error e)) : Ends s r parsing (.error (.parse e))
  | unplanned {parsing planning : List Call} {ast : Option Tree} {e : PlanError}
      (h : Accepted s r) (hp : Parses s r parsing (.ok ast))
      (hx : Plans s r planning (.error e)) :
      Ends s r (parsing ++ planning) (.error (.plan e))
  | failed {parsing planning : List Call} {ast : Option Tree} {plan : Tree} {e : EngineError}
      (h : Accepted s r) (hp : Parses s r parsing (.ok ast)) (hx : Plans s r planning (.ok plan))
      (he : s.engine.evaluate (ruleInput r ast plan) = .error e) :
      Ends s r (parsing ++ planning ++ [.rules (ruleInput r ast plan)]) (.error (.engine e))
  | answered {parsing planning : List Call} {ast : Option Tree} {plan : Tree}
      {suggestions : List Suggestion} (h : Accepted s r) (hp : Parses s r parsing (.ok ast))
      (hx : Plans s r planning (.ok plan))
      (he : s.engine.evaluate (ruleInput r ast plan) = .ok suggestions) :
      Ends s r (parsing ++ planning ++ [.rules (ruleInput r ast plan)])
        (.ok { ast, plan := some plan, suggestions })

/-! ## The stages, one by one -/

theorem observed_andThen_error {α β : Type} {stage : Staged α} {next : α → Staged β}
    {calls : List Call} {e : ServiceError} (h : observed stage = (calls, .error e)) :
    observed (andThen stage next) = (calls, .error e) := by
  obtain ⟨steps, result⟩ := stage
  rw [observed, Prod.mk.injEq] at h
  obtain ⟨rfl, rfl⟩ := h
  rfl

theorem observed_andThen_ok {α β : Type} {stage : Staged α} {next : α → Staged β}
    {calls : List Call} {a : α} (h : observed stage = (calls, .ok a)) :
    observed (andThen stage next)
      = (calls ++ (observed (next a)).1, (observed (next a)).2) := by
  obtain ⟨steps, result⟩ := stage
  rw [observed, Prod.mk.injEq] at h
  obtain ⟨rfl, rfl⟩ := h
  rw [andThen, observed, observed, List.filterMap_append]

theorem isMissing_iff (text : Option String) : isMissing text = true ↔ Missing text := by
  cases text with
  | none => exact ⟨fun _ _ h => absurd h (by simp), fun _ => rfl⟩
  | some t =>
      rw [isMissing, ← Text.trimmed_eq_empty_iff]
      constructor
      · rintro h t' ht'
        cases ht'
        exact h
      · intro h
        exact h t rfl

theorem trimmed_ne_empty {t : String} (h : ¬ Text.isBlankText t = true) : Text.trimmed t ≠ "" :=
  fun he => h ((Text.trimmed_eq_empty_iff t).mp he)

theorem not_isBlankText {t : String} (h : Text.trimmed t ≠ "") : ¬ Text.isBlankText t = true :=
  fun hb => h ((Text.trimmed_eq_empty_iff t).mpr hb)

theorem refused_of_validate {s : Service} {r : Request} {e : ServiceError}
    (h : s.validate r = .error e) : Refused s r e := by
  rw [validate] at h
  split at h
  · next hq =>
      cases h
      exact .missingQuery ((Text.trimmed_eq_empty_iff _).mpr hq)
  · next hq =>
      have hq := trimmed_ne_empty hq
      split at h
      · next hm =>
          split at h
          · next ht =>
              cases h
              exact .missingExplainText hq hm ((isMissing_iff _).mp ht)
          · cases h
      · next hm =>
          split at h
          · next hc =>
              cases h
              exact .missingConnection hq hm ((isMissing_iff _).mp hc)
          · next hc =>
              split at h
              · next hp =>
                  cases h
                  exact .noPlanProvider hq hm (fun hc' => hc ((isMissing_iff _).mpr hc'))
                    (Option.isNone_iff_eq_none.mp hp)
              · cases h

theorem validate_of_refused {s : Service} {r : Request} {e : ServiceError}
    (h : Refused s r e) : s.validate r = .error e := by
  cases h with
  | missingQuery hq => rw [validate, if_pos ((Text.trimmed_eq_empty_iff _).mp hq)]
  | missingExplainText hq hm ht =>
      rw [validate, if_neg (not_isBlankText hq), hm]
      exact if_pos ((isMissing_iff _).mpr ht)
  | missingConnection hq hm hc =>
      rw [validate, if_neg (not_isBlankText hq), hm]
      exact if_pos ((isMissing_iff _).mpr hc)
  | noPlanProvider hq hm hc hp =>
      rw [validate, if_neg (not_isBlankText hq), hm, hp]
      exact if_neg fun hc' => hc ((isMissing_iff _).mp hc')

theorem validate_of_accepted {s : Service} {r : Request} (h : Accepted s r) :
    s.validate r = .ok () := by
  cases hv : s.validate r with
  | error e => exact absurd (refused_of_validate hv) (h e)
  | ok _ => rfl

theorem observed_parseQuery {s : Service} {r : Request} {calls : List Call}
    {outcome : Except ParseError (Option Tree)} (h : Parses s r calls outcome) :
    observed (s.parseQuery r) = (calls, outcome.mapError .parse) := by
  cases h with
  | unread hp => rw [parseQuery, hp]; rfl
  | read hp => rw [parseQuery, hp]; rfl

theorem observed_obtainPlan {s : Service} {r : Request} {calls : List Call}
    {outcome : Except PlanError Tree} (h : Plans s r calls outcome) :
    observed (s.obtainPlan r) = (calls, outcome.mapError .plan) := by
  cases h with
  | given hm ht => rw [obtainPlan, hm, ht]; rfl
  | asked hm hp hc => rw [obtainPlan, hm, hp, hc]; rfl

/-- The engine is called once, and its own steps are no calls. -/
theorem observed_applyRules (s : Service) (r : Request) (ast : Option Tree) (plan : Tree) :
    observed (s.applyRules r ast plan)
      = ([.rules (ruleInput r ast plan)],
          (s.engine.evaluate (ruleInput r ast plan)).mapError .engine) := by
  have happlied : ∀ applied : List Applied,
      (applied.map Step.applied).filterMap Step.call? = [] := by
    intro applied
    rw [List.filterMap_map, List.filterMap_eq_nil_iff]
    intro a _
    rfl
  rw [applyRules, observed, Engine.evaluate]
  cases hrun : s.engine.run (ruleInput r ast plan) with
  | mk applied outcome =>
      rw [ruleInput] at hrun
      simp only [hrun, List.cons_append, List.filterMap_cons, List.filterMap_append, happlied]
      cases outcome <;> rfl

/-! ## From the rules to the run -/

theorem observed_run {s : Service} {r : Request} {calls : List Call}
    {outcome : Except ServiceError Response} (h : Ends s r calls outcome) :
    observed (s.run r) = (calls, outcome) := by
  have hvalid : Accepted s r → observed (([], s.validate r) : Staged Unit) = ([], .ok ()) := by
    intro ha
    rw [observed, validate_of_accepted ha]
    rfl
  rw [run]
  cases h with
  | refused h =>
      refine observed_andThen_error ?_
      rw [observed, validate_of_refused h]
      rfl
  | unparsed h hp =>
      rw [observed_andThen_ok (hvalid h), observed_andThen_error (observed_parseQuery hp)]
      rfl
  | unplanned h hp hx =>
      rw [observed_andThen_ok (hvalid h), observed_andThen_ok (observed_parseQuery hp),
        observed_andThen_error (observed_obtainPlan hx)]
      rfl
  | @failed _ _ ast plan _ h hp hx he =>
      have hrules := observed_applyRules s r ast plan
      rw [he] at hrules
      rw [observed_andThen_ok (hvalid h), observed_andThen_ok (observed_parseQuery hp),
        observed_andThen_ok (observed_obtainPlan hx), observed_andThen_error hrules,
        List.append_assoc]
      rfl
  | @answered _ _ ast plan _ h hp hx he =>
      have hrules := observed_applyRules s r ast plan
      rw [he] at hrules
      rw [observed_andThen_ok (hvalid h), observed_andThen_ok (observed_parseQuery hp),
        observed_andThen_ok (observed_obtainPlan hx), observed_andThen_ok hrules,
        List.append_assoc]
      rfl

theorem Accepted.query {s : Service} {r : Request} (h : Accepted s r) :
    Text.trimmed r.query ≠ "" :=
  fun hq => h _ (.missingQuery hq)

/-- What is accepted in manual mode brings a plan along. -/
theorem Accepted.exists_explainText {s : Service} {r : Request} (h : Accepted s r)
    (hm : r.mode = .manual) : ∃ text, r.explainText = some text := by
  cases ht : r.explainText with
  | some text => exact ⟨text, rfl⟩
  | none =>
      refine absurd (.missingExplainText h.query hm ?_) (h _)
      intro t ht'
      rw [ht] at ht'
      cases ht'

/-- What is accepted in connected mode names a database, and there is someone
to ask it. -/
theorem Accepted.exists_provider {s : Service} {r : Request} (h : Accepted s r)
    (hm : r.mode = .connected) :
    ∃ connection explain, r.connection = some connection ∧ s.provider = some explain := by
  have hpresent : ¬ Missing r.connection := fun hc => h _ (.missingConnection h.query hm hc)
  cases hc : r.connection with
  | none =>
      refine absurd ?_ hpresent
      intro t ht
      rw [hc] at ht
      cases ht
  | some connection =>
      cases hp : s.provider with
      | none => exact absurd (.noPlanProvider h.query hm hpresent hp) (h _)
      | some explain => exact ⟨connection, explain, rfl, rfl⟩

theorem exists_parses (s : Service) (r : Request) : ∃ calls outcome, Parses s r calls outcome := by
  cases hp : s.parser with
  | none => exact ⟨_, _, .unread hp⟩
  | some parse => exact ⟨_, _, .read hp⟩

theorem exists_plans {s : Service} {r : Request} (h : Accepted s r) :
    ∃ calls outcome, Plans s r calls outcome := by
  cases hm : r.mode with
  | manual =>
      obtain ⟨text, ht⟩ := h.exists_explainText hm
      exact ⟨_, _, .given hm ht⟩
  | connected =>
      obtain ⟨connection, explain, hc, hp⟩ := h.exists_provider hm
      exact ⟨_, _, .asked hm hp hc⟩

/-- Some rule always applies. -/
theorem exists_ends (s : Service) (r : Request) : ∃ calls outcome, Ends s r calls outcome := by
  cases hv : s.validate r with
  | error e => exact ⟨_, _, .refused (refused_of_validate hv)⟩
  | ok _ =>
      have ha : Accepted s r := by
        intro e he
        rw [validate_of_refused he] at hv
        cases hv
      obtain ⟨parsing, parsed, hp⟩ := exists_parses s r
      cases parsed with
      | error e => exact ⟨_, _, .unparsed ha hp⟩
      | ok ast =>
          obtain ⟨planning, planned, hx⟩ := exists_plans ha
          cases planned with
          | error e => exact ⟨_, _, .unplanned ha hp hx⟩
          | ok plan =>
              cases he : s.engine.evaluate (ruleInput r ast plan) with
              | error e => exact ⟨_, _, .failed ha hp hx he⟩
              | ok suggestions => exact ⟨_, _, .answered ha hp hx he⟩

theorem observed_run_eq (s : Service) (r : Request) :
    observed (s.run r) = (s.calls r, s.analyze r) := rfl

theorem ends_iff (s : Service) (r : Request) (calls : List Call)
    (outcome : Except ServiceError Response) :
    Ends s r calls outcome ↔ calls = s.calls r ∧ outcome = s.analyze r := by
  constructor
  · intro h
    have hrun := observed_run h
    rw [observed_run_eq, Prod.mk.injEq] at hrun
    exact ⟨hrun.1.symm, hrun.2.symm⟩
  · rintro ⟨rfl, rfl⟩
    obtain ⟨calls, outcome, h⟩ := exists_ends s r
    have hrun := observed_run h
    rw [observed_run_eq, Prod.mk.injEq] at hrun
    rw [hrun.1, hrun.2]
    exact h

/-! ## What the calls can be -/

/-- The calls to the parser, if the analysis gets that far. -/
def parserCalls (s : Service) (r : Request) : List Call :=
  match s.parser with
  | none => []
  | some _ => [.parse r.query]

/-- The calls to the provider, if the analysis gets that far. -/
def providerCalls (r : Request) : List Call :=
  match r.mode, r.connection with
  | .connected, some connection => [.explain connection r.query]
  | _, _ => []

theorem Parses.calls_eq {s : Service} {r : Request} {calls : List Call}
    {outcome : Except ParseError (Option Tree)} (h : Parses s r calls outcome) :
    calls = parserCalls s r := by
  cases h with
  | unread hp | read hp => rw [parserCalls, hp]

theorem Plans.calls_eq {s : Service} {r : Request} {calls : List Call}
    {outcome : Except PlanError Tree} (h : Plans s r calls outcome) :
    calls = providerCalls r := by
  cases h with
  | given hm _ => rw [providerCalls, hm]
  | asked hm _ hc => rw [providerCalls, hm, hc]

/-- Whatever way an analysis ends, it has made its calls in one order. -/
theorem Ends.calls_in_order {s : Service} {r : Request} {calls : List Call}
    {outcome : Except ServiceError Response} (h : Ends s r calls outcome) :
    ∃ input, calls <+: parserCalls s r ++ providerCalls r ++ [.rules input] := by
  cases h with
  | refused _ => exact ⟨ruleInput r none .null, List.nil_prefix⟩
  | unparsed _ hp =>
      refine ⟨ruleInput r none .null, ?_⟩
      rw [hp.calls_eq, List.append_assoc]
      exact List.prefix_append _ _
  | unplanned _ hp hx =>
      refine ⟨ruleInput r none .null, ?_⟩
      rw [hp.calls_eq, hx.calls_eq]
      exact List.prefix_append _ _
  | @failed _ _ ast plan _ _ hp hx _ | @answered _ _ ast plan _ _ hp hx _ =>
      refine ⟨ruleInput r ast plan, [], ?_⟩
      rw [List.append_nil, hp.calls_eq, hx.calls_eq]

theorem nodup_collaborators (s : Service) (r : Request) (input : RuleInput) :
    ((parserCalls s r ++ providerCalls r ++ [Call.rules input]).map Call.collaborator).Nodup := by
  have hp : ((parserCalls s r).map Call.collaborator).Sublist [.parser] := by
    rw [parserCalls]
    split
    · exact List.nil_sublist _
    · exact List.Sublist.refl _
  have hx : ((providerCalls r).map Call.collaborator).Sublist [.provider] := by
    rw [providerCalls]
    split
    · exact List.Sublist.refl _
    · exact List.nil_sublist _
  have hall : [Collaborator.parser, .provider, .engine].Nodup := by decide
  rw [List.map_append, List.map_append]
  exact hall.sublist ((hp.append hx).append (List.Sublist.refl _))

theorem isValidation_of_refused {s : Service} {r : Request} {e : ServiceError}
    (h : Refused s r e) : e.isValidation = true := by
  cases h <;> rfl

/-- An analysis ends by the one rule that applies, with that rule's calls and
that rule's outcome. The calls go to the parser, the provider and the rules in
this order and at most once each; the incomplete requests are the ones that
are refused, and for these no step is taken at all. -/
theorem analyze_by_first_failure (s : Service) (r : Request) :
    (∀ calls outcome, Ends s r calls outcome ↔ calls = s.calls r ∧ outcome = s.analyze r) ∧
      (∃ input, s.calls r <+: parserCalls s r ++ providerCalls r ++ [.rules input]) ∧
      ((s.calls r).map Call.collaborator).Nodup ∧
      (∀ e, Refused s r e ↔ s.analyze r = .error e ∧ e.isValidation = true) ∧
      (∀ e, Refused s r e → s.run r = ([], .error e)) := by
  have hends : Ends s r (s.calls r) (s.analyze r) := (ends_iff s r _ _).mpr ⟨rfl, rfl⟩
  obtain ⟨input, hcalls⟩ := hends.calls_in_order
  refine ⟨ends_iff s r, ⟨input, hcalls⟩, ?_, ?_, ?_⟩
  · exact (nodup_collaborators s r input).sublist (hcalls.sublist.map Call.collaborator)
  · intro e
    constructor
    · intro h
      exact ⟨((ends_iff s r _ _).mp (.refused h)).2.symm, isValidation_of_refused h⟩
    · rintro ⟨he, hv⟩
      rw [he] at hends
      generalize s.calls r = calls at hends
      cases hends with
      | refused h => exact h
      | unparsed | unplanned | failed => cases hv
  · intro e h
    rw [run, validate_of_refused h]
    rfl

end Service

end QueryAdvisor
