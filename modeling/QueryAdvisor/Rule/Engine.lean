import QueryAdvisor.Rule.FunctionOnColumn
import QueryAdvisor.Rule.LeadingWildcard
import QueryAdvisor.Rule.SeqScan

/-!
# The rule engine

An engine runs its rules in order and puts their suggestions one after the
other. The first rule that fails ends the run, and nothing that was suggested
before it is kept. A run also tells which rules were applied and how many
suggestions each of them made.
-/

namespace QueryAdvisor

/-- A rule failed. -/
structure EngineError where
  rule : String
  cause : RuleError
deriving DecidableEq, Repr

def EngineError.message (e : EngineError) : String :=
  "rule " ++ e.rule ++ ": " ++ e.cause.message

/-- A rule that was applied, and how many suggestions it made. -/
structure Applied where
  rule : String
  suggestions : Nat
deriving DecidableEq, Repr

/-- Rules in the order in which they run. -/
structure Engine where
  rules : List Rule

namespace Engine

/-- The built-in rules. -/
def default : Engine :=
  ⟨[Rule.seqScan, Rule.leadingWildcard, Rule.functionOnColumn]⟩

/-- Adds a rule that runs after all others. -/
def add (engine : Engine) (rule : Rule) : Engine :=
  ⟨engine.rules ++ [rule]⟩

def names (engine : Engine) : List String :=
  engine.rules.map Rule.name

/-- Runs rules in order: those applied without failing, and the outcome. -/
def runRules (input : RuleInput) :
    List Rule → List Applied × Except EngineError (List Suggestion)
  | [] => ([], .ok [])
  | rule :: rest =>
      match rule.apply input with
      | .error cause => ([], .error ⟨rule.name, cause⟩)
      | .ok made =>
          let (applied, outcome) := runRules input rest
          (⟨rule.name, made.length⟩ :: applied, outcome.map (made ++ ·))

/-- Runs the engine, and tells which rules were applied. -/
def run (engine : Engine) (input : RuleInput) :
    List Applied × Except EngineError (List Suggestion) :=
  runRules input engine.rules

/-- The suggestions of all rules, or the failure of the first that fails. -/
def evaluate (engine : Engine) (input : RuleInput) : Except EngineError (List Suggestion) :=
  (engine.run input).2

/-- The engine and the names of its rules, for display. -/
def describe (engine : Engine) : String :=
  "RuleEngine \x7b rules: [" ++ String.intercalate ", " (engine.names.map Text.quoted)
    ++ "] \x7d"

end Engine

end QueryAdvisor
