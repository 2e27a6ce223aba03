import QueryAdvisor.Rule.Engine

/-!
# Engines compose

The rules of an engine run one after the other, and the first that fails ends
the run. `Runs` is the loop that does so, started anywhere: with some rules
called, some suggestions made, and some rules still to be called. Everything
follows from two facts. Rules that do not fail only move the loop on
(`runs_append_of_succeed`, and `runRules_append_of_succeed` for the engine), and
a list of rules either has no rule that fails or can be cut in front of the first
(`succeed_or_failsFirst`).

So two lists of rules run as one, and a rule that fails decides the outcome alone:
not by what was suggested before it, and not by the rules behind it, which are
never called.
-/

namespace QueryAdvisor

/-- A rule that does not fail. -/
def Rule.Succeeds (rule : Rule) (input : RuleInput) : Prop :=
  ∃ made, rule.apply input = .ok made

/-- What a rule suggests, which is nothing when it fails. -/
def Rule.made (rule : Rule) (input : RuleInput) : List Suggestion :=
  match rule.apply input with
  | .ok made => made
  | .error _ => []

theorem Rule.Succeeds.apply_eq {rule : Rule} {input : RuleInput} (h : rule.Succeeds input) :
    rule.apply input = .ok (rule.made input) := by
  obtain ⟨made, hmade⟩ := h
  rw [Rule.made, hmade]

namespace Engine

/-! ## The first rule that fails -/

/-- A rule of a list fails, and those before it do not. -/
structure FailsFirst (input : RuleInput) (rules before : List Rule) (rule : Rule)
    (cause : RuleError) : Prop where
  place : before ++ [rule] <+: rules
  earlier : ∀ r ∈ before, r.Succeeds input
  fails : rule.apply input = .error cause

theorem FailsFirst.cons {input : RuleInput} {rules before : List Rule} {rule r : Rule}
    {cause : RuleError} (hr : r.Succeeds input) (h : FailsFirst input rules before rule cause) :
    FailsFirst input (r :: rules) (r :: before) rule cause where
  place := List.cons_prefix_cons.mpr ⟨rfl, h.place⟩
  earlier := List.forall_mem_cons.mpr ⟨hr, h.earlier⟩
  fails := h.fails

theorem FailsFirst.exists_append {input : RuleInput} {rules before : List Rule} {rule : Rule}
    {cause : RuleError} (h : FailsFirst input rules before rule cause) :
    ∃ after, rules = before ++ rule :: after := by
  obtain ⟨after, rfl⟩ := h.place
  exact ⟨after, List.append_assoc _ _ _⟩

theorem succeed_or_failsFirst (input : RuleInput) (rules : List Rule) :
    (∀ rule ∈ rules, rule.Succeeds input) ∨
      ∃ before rule cause, FailsFirst input rules before rule cause := by
  induction rules with
  | nil => exact .inl (List.forall_mem_nil _)
  | cons r rest ih =>
      cases hr : r.apply input with
      | error cause =>
          have hfirst : FailsFirst input (r :: rest) [] r cause :=
            ⟨⟨rest, rfl⟩, List.forall_mem_nil _, hr⟩
          exact .inr ⟨[], r, cause, hfirst⟩
      | ok made =>
          rcases ih with hall | ⟨before, rule, cause, hfirst⟩
          · exact .inl (List.forall_mem_cons.mpr ⟨⟨made, hr⟩, hall⟩)
          · exact .inr ⟨r :: before, rule, cause, hfirst.cons ⟨made, hr⟩⟩

/-! ## The loop -/

/-- How far a run has come. -/
structure Progress where
  /-- The rules called, in order. -/
  called : List Rule
  /-- What they have suggested. -/
  made : List Suggestion
  /-- The rules still to be called. -/
  pending : List Rule

/-- Before the first call. -/
def Progress.start (rules : List Rule) : Progress :=
  ⟨[], [], rules⟩

/-- The rules that have been called when a run ends, and its outcome. -/
inductive Runs (input : RuleInput) :
    Progress → List Rule → Except EngineError (List Suggestion) → Prop where
  | finished {called : List Rule} {made : List Suggestion} :
      Runs input ⟨called, made, []⟩ called (.ok made)
  | failed {called rest : List Rule} {made : List Suggestion} {rule : Rule} {cause : RuleError}
      (h : rule.apply input = .error cause) :
      Runs input ⟨called, made, rule :: rest⟩ (called ++ [rule]) (.error ⟨rule.name, cause⟩)
  | next {called rest all : List Rule} {made more : List Suggestion} {rule : Rule}
      {outcome : Except EngineError (List Suggestion)} (h : rule.apply input = .ok more)
      (hrest : Runs input ⟨called ++ [rule], made ++ more, rest⟩ all outcome) :
      Runs input ⟨called, made, rule :: rest⟩ all outcome

section Loop

variable {input : RuleInput} {called rest all : List Rule} {made : List Suggestion}
  {outcome : Except EngineError (List Suggestion)}

theorem runs_nil_iff :
    Runs input ⟨called, made, []⟩ all outcome ↔ all = called ∧ outcome = .ok made := by
  constructor
  · intro h
    cases h
    exact ⟨rfl, rfl⟩
  · rintro ⟨rfl, rfl⟩
    exact .finished

theorem runs_cons_of_error_iff {rule : Rule} {cause : RuleError}
    (h : rule.apply input = .error cause) :
    Runs input ⟨called, made, rule :: rest⟩ all outcome
      ↔ all = called ++ [rule] ∧ outcome = .error ⟨rule.name, cause⟩ := by
  constructor
  · intro hruns
    cases hruns with
    | failed h' =>
        rw [h] at h'
        cases h'
        exact ⟨rfl, rfl⟩
    | next h' _ =>
        rw [h] at h'
        cases h'
  · rintro ⟨rfl, rfl⟩
    exact .failed h

theorem runs_cons_of_succeeds_iff {rule : Rule} (h : rule.Succeeds input) :
    Runs input ⟨called, made, rule :: rest⟩ all outcome
      ↔ Runs input ⟨called ++ [rule], made ++ rule.made input, rest⟩ all outcome := by
  constructor
  · intro hruns
    cases hruns with
    | failed h' =>
        rw [h.apply_eq] at h'
        cases h'
    | next h' hrest =>
        rw [h.apply_eq] at h'
        cases h'
        exact hrest
  · exact .next h.apply_eq

/-- Rules that do not fail move the loop on to those behind them. -/
theorem runs_append_of_succeed {rules : List Rule} (h : ∀ rule ∈ rules, rule.Succeeds input) :
    Runs input ⟨called, made, rules ++ rest⟩ all outcome
      ↔ Runs input ⟨called ++ rules, made ++ rules.flatMap (·.made input), rest⟩ all outcome := by
  induction rules generalizing called made with
  | nil => rw [List.nil_append, List.append_nil, List.flatMap_nil, List.append_nil]
  | cons rule rules ih =>
      obtain ⟨hrule, hrules⟩ := List.forall_mem_cons.mp h
      rw [List.cons_append, runs_cons_of_succeeds_iff hrule, ih hrules, List.flatMap_cons,
        List.append_assoc, List.append_assoc, List.singleton_append]

end Loop

/-! ## The engine -/

/-- The trace that a rule leaves when it does not fail. -/
def trace (input : RuleInput) (rule : Rule) : Applied :=
  ⟨rule.name, (rule.made input).length⟩

/-- Rules that do not fail put their suggestions in front of what is still to come. -/
theorem runRules_append_of_succeed {input : RuleInput} {rules : List Rule}
    (h : ∀ rule ∈ rules, rule.Succeeds input) (rest : List Rule) :
    runRules input (rules ++ rest)
      = (rules.map (trace input) ++ (runRules input rest).1,
          (runRules input rest).2.map (rules.flatMap (·.made input) ++ ·)) := by
  have hmap : ∀ (x : Except EngineError (List Suggestion)) (a b : List Suggestion),
      (x.map (b ++ ·)).map (a ++ ·) = x.map (a ++ b ++ ·) := by
    intro x a b
    cases x <;> simp [Except.map]
  induction rules with
  | nil =>
      have hsame : (runRules input rest).2.map ([] ++ ·) = (runRules input rest).2 := by
        cases (runRules input rest).2 with
        | error e => rfl
        | ok made => rfl
      rw [List.nil_append, List.map_nil, List.nil_append, List.flatMap_nil, hsame]
  | cons rule rules ih =>
      obtain ⟨hrule, hrules⟩ := List.forall_mem_cons.mp h
      rw [List.cons_append, runRules, hrule.apply_eq, List.map_cons, List.flatMap_cons, trace]
      simp only [ih hrules, hmap, List.cons_append]

theorem run_of_succeed {input : RuleInput} {rules : List Rule}
    (h : ∀ rule ∈ rules, rule.Succeeds input) :
    run ⟨rules⟩ input = (rules.map (trace input), .ok (rules.flatMap (·.made input))) := by
  have hrun := runRules_append_of_succeed h []
  rw [List.append_nil] at hrun
  rw [run, hrun, runRules, List.append_nil, Except.map, List.append_nil]

theorem run_of_error {input : RuleInput} {before : List Rule} {rule : Rule} {cause : RuleError}
    (hbefore : ∀ r ∈ before, r.Succeeds input) (hrule : rule.apply input = .error cause)
    (after : List Rule) :
    run ⟨before ++ rule :: after⟩ input
      = (before.map (trace input), .error ⟨rule.name, cause⟩) := by
  have hlast : runRules input (rule :: after) = ([], .error ⟨rule.name, cause⟩) := by
    rw [runRules, hrule]
  rw [run, runRules_append_of_succeed hbefore, hlast, List.append_nil, Except.map]

theorem evaluate_of_succeed {input : RuleInput} {rules : List Rule}
    (h : ∀ rule ∈ rules, rule.Succeeds input) :
    evaluate ⟨rules⟩ input = .ok (rules.flatMap (·.made input)) := by
  rw [evaluate, run_of_succeed h]

theorem FailsFirst.evaluate_eq {input : RuleInput} {rules before : List Rule} {rule : Rule}
    {cause : RuleError} (h : FailsFirst input rules before rule cause) :
    evaluate ⟨rules⟩ input = .error ⟨rule.name, cause⟩ := by
  obtain ⟨after, rfl⟩ := h.exists_append
  rw [evaluate, run_of_error h.earlier h.fails]

theorem evaluate_eq_error_iff (input : RuleInput) (rules : List Rule) (e : EngineError) :
    evaluate ⟨rules⟩ input = .error e
      ↔ ∃ before rule cause, FailsFirst input rules before rule cause ∧ e = ⟨rule.name, cause⟩ := by
  constructor
  · intro h
    rcases succeed_or_failsFirst input rules with hall | ⟨before, rule, cause, hfirst⟩
    · rw [evaluate_of_succeed hall] at h
      cases h
    · rw [hfirst.evaluate_eq] at h
      exact ⟨before, rule, cause, hfirst, (Except.error.inj h).symm⟩
  · rintro ⟨before, rule, cause, hfirst, rfl⟩
    exact hfirst.evaluate_eq

theorem exists_evaluate_eq_error_iff (input : RuleInput) (rules : List Rule) :
    (∃ e, evaluate ⟨rules⟩ input = .error e)
      ↔ ∃ rule ∈ rules, ∃ cause, rule.apply input = .error cause := by
  constructor
  · rintro ⟨e, he⟩
    obtain ⟨before, rule, cause, hfirst, -⟩ := (evaluate_eq_error_iff input rules e).mp he
    have hmem : rule ∈ rules := hfirst.place.subset List.mem_concat_self
    exact ⟨rule, hmem, cause, hfirst.fails⟩
  · rintro ⟨rule, hmem, cause, hfails⟩
    rcases succeed_or_failsFirst input rules with hall | ⟨before, first, cause', hfirst⟩
    · obtain ⟨made, hmade⟩ := hall rule hmem
      rw [hmade] at hfails
      cases hfails
    · exact ⟨_, hfirst.evaluate_eq⟩

theorem evaluate_append (input : RuleInput) (first second : List Rule) :
    evaluate ⟨first ++ second⟩ input = (do
      let earlier ← evaluate ⟨first⟩ input
      let later ← evaluate ⟨second⟩ input
      pure (earlier ++ later)) := by
  rcases succeed_or_failsFirst input first with hall | ⟨before, rule, cause, hfirst⟩
  · rw [evaluate_of_succeed hall, evaluate, evaluate, run, run, runRules_append_of_succeed hall]
    cases (runRules input second).2 with
    | error e => rfl
    | ok later => rfl
  · -- the rule that ends the first run is also the first to fail among all rules
    have hplace : before ++ [rule] <+: first ++ second :=
      hfirst.place.trans (List.prefix_append first second)
    have hwhole : FailsFirst input (first ++ second) before rule cause :=
      ⟨hplace, hfirst.earlier, hfirst.fails⟩
    rw [hwhole.evaluate_eq, hfirst.evaluate_eq]
    rfl

theorem foldl_add (engine : Engine) (rules : List Rule) :
    rules.foldl add engine = ⟨engine.rules ++ rules⟩ := by
  induction rules generalizing engine with
  | nil => rw [List.foldl_nil, List.append_nil]
  | cons rule rules ih =>
      rw [List.foldl_cons, ih, add, List.append_assoc, List.singleton_append]

theorem runs_start_iff_of_error {input : RuleInput} {before : List Rule} {rule : Rule}
    {cause : RuleError} (hbefore : ∀ r ∈ before, r.Succeeds input)
    (hrule : rule.apply input = .error cause) (after called : List Rule)
    (outcome : Except EngineError (List Suggestion)) :
    Runs input (.start (before ++ rule :: after)) called outcome
      ↔ called = before ++ [rule] ∧ outcome = .error ⟨rule.name, cause⟩ := by
  rw [Progress.start, runs_append_of_succeed hbefore, runs_cons_of_error_iff hrule,
    List.nil_append]

theorem runs_start_iff_of_succeed {input : RuleInput} {rules : List Rule}
    (h : ∀ rule ∈ rules, rule.Succeeds input) (called : List Rule)
    (outcome : Except EngineError (List Suggestion)) :
    Runs input (.start rules) called outcome
      ↔ called = rules ∧ outcome = .ok (rules.flatMap (·.made input)) := by
  have hruns : Runs input ⟨[], [], rules ++ []⟩ called outcome ↔ _ := runs_append_of_succeed h
  rw [List.append_nil, List.nil_append, List.nil_append] at hruns
  rw [Progress.start, hruns, runs_nil_iff]

/-- An engine to which rules are added runs as an engine made of all of them, and
two lists of rules make what each makes, one after the other, unless one fails. An
engine fails exactly when a rule does, with the name and the cause of the first.
By then the rules before that one have been called and the rule itself; those
behind it have not, whatever they are, and nothing that was suggested is left.
When no rule fails, all are called and all that they suggest is kept. -/
theorem evaluate_composes (input : RuleInput) :
    (∀ first second : List Rule,
      (second.foldl add ⟨first⟩).evaluate input = evaluate ⟨first ++ second⟩ input ∧
        evaluate ⟨first ++ second⟩ input = (do
          let earlier ← evaluate ⟨first⟩ input
          let later ← evaluate ⟨second⟩ input
          pure (earlier ++ later))) ∧
      (∀ rules : List Rule,
        ((∃ e, evaluate ⟨rules⟩ input = .error e)
            ↔ ∃ rule ∈ rules, ∃ cause, rule.apply input = .error cause) ∧
          (∀ e, evaluate ⟨rules⟩ input = .error e
            ↔ ∃ before rule cause,
                FailsFirst input rules before rule cause ∧ e = ⟨rule.name, cause⟩)) ∧
      (∀ before rule after cause, (∀ r ∈ before, r.Succeeds input) →
        rule.apply input = .error cause →
          run ⟨before ++ rule :: after⟩ input
              = (before.map (trace input), .error ⟨rule.name, cause⟩) ∧
            ∀ called outcome, Runs input (.start (before ++ rule :: after)) called outcome
              ↔ called = before ++ [rule] ∧ outcome = .error ⟨rule.name, cause⟩) ∧
      ∀ rules : List Rule, (∀ rule ∈ rules, rule.Succeeds input) →
        run ⟨rules⟩ input = (rules.map (trace input), .ok (rules.flatMap (·.made input))) ∧
          ∀ called outcome, Runs input (.start rules) called outcome
            ↔ called = rules ∧ outcome = .ok (rules.flatMap (·.made input)) := by
  refine ⟨?_, ?_, ?_, ?_⟩
  · intro first second
    exact ⟨by rw [foldl_add], evaluate_append input first second⟩
  · intro rules
    exact ⟨exists_evaluate_eq_error_iff input rules, evaluate_eq_error_iff input rules⟩
  · intro before rule after cause hbefore hrule
    exact ⟨run_of_error hbefore hrule after, runs_start_iff_of_error hbefore hrule after⟩
  · intro rules h
    exact ⟨run_of_succeed h, runs_start_iff_of_succeed h⟩

/-- Between a rule that makes a suggestion and one that is no longer called, a rule
fails: its failure is all that is left. -/
theorem evaluate_of_failure_in_between :
    let input : RuleInput := { request := {} }
    let first : Rule := ⟨"A", fun _ => .ok [⟨"t", "", "", .low⟩]⟩
    let second : Rule := ⟨"B", fun _ => .error (.unexpectedShape "x")⟩
    let third : Rule := ⟨"C", fun _ => .error (.unexpectedShape "y")⟩
    evaluate ⟨[first, second, third]⟩ input = .error ⟨"B", .unexpectedShape "x"⟩ ∧
      run ⟨[first, second, third]⟩ input = ([⟨"A", 1⟩], .error ⟨"B", .unexpectedShape "x"⟩) ∧
      Runs input (.start [first, second, third]) [first, second]
        (.error ⟨"B", .unexpectedShape "x"⟩) := by
  intro input first second third
  have hfirst : ∀ r ∈ [first], r.Succeeds input := by
    rw [List.forall_mem_singleton]
    exact ⟨_, rfl⟩
  obtain ⟨-, hfails, herror, -⟩ := evaluate_composes input
  obtain ⟨hrun, hruns⟩ := herror [first] second [third] _ hfirst rfl
  refine ⟨((hfails [first, second, third]).2 _).mpr ?_, hrun, (hruns _ _).mpr ⟨rfl, rfl⟩⟩
  exact ⟨[first], second, .unexpectedShape "x", ⟨⟨[third], rfl⟩, hfirst, rfl⟩, rfl⟩

end Engine

end QueryAdvisor
