import Mathlib.Data.List.Forall2
import QueryAdvisor.Proofs.PlanOrder
import QueryAdvisor.Response
import QueryAdvisor.Rule.Engine

/-!
# What the built-in rules suggest

No built-in rule fails. One of them looks at the plan alone and two at the
parse tree alone, so the suggestions fall into three runs: a severe one for
each sequential scan of the plan, in pre-order and under the name of what is
scanned, then those of medium severity about patterns, then those of medium
severity about functions. The request plays no part. What a response says about severities can then be read off the
plan: it is a list of severe suggestions, as many as there are scans, followed
by a list of suggestions that are all of medium severity.
-/

namespace QueryAdvisor

namespace PlanNode

/-- Whether a node says that it is a sequential scan. -/
def saysSeqScan (node : PlanNode) : Bool :=
  Fields.text? node.fields "Node Type" == some "Seq Scan"

/-- What a node says it reads, when that has a name. -/
def scanned (node : PlanNode) : String :=
  match Fields.text? node.fields "Relation Name" with
  | none | some "" => "target table"
  | some name => name

theorem isSeqScan_eq_saysSeqScan (node : PlanNode) : node.isSeqScan = node.saysSeqScan := by
  rw [isSeqScan, saysSeqScan, kind?, text?]
  cases Fields.text? node.fields "Node Type" with
  | none => rfl
  | some kind =>
      by_cases hempty : kind = ""
      · subst hempty
        rfl
      · rw [Option.filter_some, if_pos (decide_eq_true hempty)]

theorem relation_eq_scanned (node : PlanNode) : SeqScan.relation node = node.scanned := by
  rw [SeqScan.relation, scanned, relation?, text?]
  cases Fields.text? node.fields "Relation Name" with
  | none => rfl
  | some name =>
      by_cases hempty : name = ""
      · subst hempty
        rfl
      · rw [Option.filter_some, if_pos (decide_eq_true hempty), Option.getD_some]
        split
        next h => cases h
        next h => exact absurd (Option.some.inj h) hempty
        next h => exact Option.some.inj h

end PlanNode

/-- The sequential scans of a plan, in pre-order. -/
def planScans (plan : Option Tree) : List PlanNode :=
  (planOrder plan).filter PlanNode.saysSeqScan

/-- A suggestion is about the scan that a node is: it is severe, and both what it
describes and what it recommends hold the quoted name of what the node reads. -/
structure Suggestion.IsAboutScan (node : PlanNode) (s : Suggestion) : Prop where
  severe : s.severity = .high
  describes : ∃ before after, s.description = before ++ Text.quoted node.scanned ++ after
  recommends : ∃ before after, s.recommendation = before ++ Text.quoted node.scanned ++ after

/-- One suggestion for each sequential scan of a plan. -/
def scanSuggestions (plan : Option Tree) : List Suggestion :=
  (planScans plan).map fun node => SeqScan.suggestion node.scanned

/-- The comparisons of a parse tree, if there is one. -/
def treeComparisons (ast : Option Tree) : List ParseTree.Comparison :=
  ast.toList.flatMap ParseTree.comparisons

/-- The suggestions about the patterns of a parse tree. -/
def patternSuggestions (ast : Option Tree) : List Suggestion :=
  LeadingWildcard.suggestions (treeComparisons ast)

/-- The suggestions about the functions of a parse tree. -/
def functionSuggestions (ast : Option Tree) : List Suggestion :=
  FunctionOnColumn.suggestions (treeComparisons ast)

theorem comparisons_eq_treeComparisons (input : RuleInput) :
    input.comparisons = treeComparisons input.ast := by
  rw [RuleInput.comparisons, RuleInput.astObjects, treeComparisons, List.filterMap_flatMap]
  rfl

/-! ## Each rule looks at one tree -/

theorem apply_seqScan (input : RuleInput) :
    Rule.seqScan.apply input = .ok (scanSuggestions input.plan) := by
  have hnodes : SeqScan.suggestions input.planNodes = scanSuggestions input.plan := by
    rw [SeqScan.suggestions, scanSuggestions, planScans, RuleInput.planNodes,
      planNodes_eq_planOrder, funext PlanNode.isSeqScan_eq_saysSeqScan]
    exact List.map_congr_left fun node _ =>
      congrArg SeqScan.suggestion node.relation_eq_scanned
  exact congrArg Except.ok hnodes

theorem apply_leadingWildcard (input : RuleInput) :
    Rule.leadingWildcard.apply input = .ok (patternSuggestions input.ast) := by
  rw [patternSuggestions, ← comparisons_eq_treeComparisons]
  rfl

theorem apply_functionOnColumn (input : RuleInput) :
    Rule.functionOnColumn.apply input = .ok (functionSuggestions input.ast) := by
  rw [functionSuggestions, ← comparisons_eq_treeComparisons]
  rfl

theorem isAboutScan_suggestion (node : PlanNode) :
    (SeqScan.suggestion node.scanned).IsAboutScan node where
  severe := rfl
  describes := ⟨_, _, rfl⟩
  recommends := ⟨_, _, rfl⟩

/-- The suggestions about scans are about the scans of the plan, one by one. -/
theorem forall₂_scanSuggestions (plan : Option Tree) :
    List.Forall₂ Suggestion.IsAboutScan (planScans plan) (scanSuggestions plan) := by
  rw [scanSuggestions, List.forall₂_map_right_iff, List.forall₂_same]
  intro node _
  exact isAboutScan_suggestion node

theorem severity_scanSuggestions {plan : Option Tree} {s : Suggestion}
    (h : s ∈ scanSuggestions plan) : s.severity = .high := by
  obtain ⟨node, -, rfl⟩ := List.mem_map.mp h
  rfl

theorem severity_patternSuggestions {ast : Option Tree} {s : Suggestion}
    (h : s ∈ patternSuggestions ast) : s.severity = .medium := by
  obtain ⟨finding, -, rfl⟩ := List.mem_map.mp h
  rfl

theorem severity_functionSuggestions {ast : Option Tree} {s : Suggestion}
    (h : s ∈ functionSuggestions ast) : s.severity = .medium := by
  obtain ⟨finding, -, rfl⟩ := List.mem_map.mp h
  rfl

theorem severity_other_suggestions {ast : Option Tree} {s : Suggestion}
    (h : s ∈ patternSuggestions ast ++ functionSuggestions ast) : s.severity = .medium := by
  cases List.mem_append.mp h with
  | inl hp => exact severity_patternSuggestions hp
  | inr hf => exact severity_functionSuggestions hf

/-- A rule that does not fail puts its suggestions in front of the others. -/
theorem Engine.evaluate_cons {input : RuleInput} {rule : Rule} {made : List Suggestion}
    (h : rule.apply input = .ok made) (rest : List Rule) :
    Engine.evaluate ⟨rule :: rest⟩ input = (Engine.evaluate ⟨rest⟩ input).map (made ++ ·) := by
  rw [evaluate, run, runRules, h]
  rfl

theorem evaluate_default_eq (input : RuleInput) :
    Engine.default.evaluate input
      = .ok (scanSuggestions input.plan ++ patternSuggestions input.ast
          ++ functionSuggestions input.ast) := by
  have hlast : Engine.evaluate ⟨[]⟩ input = .ok [] := rfl
  rw [Engine.default, Engine.evaluate_cons (apply_seqScan input),
    Engine.evaluate_cons (apply_leadingWildcard input),
    Engine.evaluate_cons (apply_functionOnColumn input), hlast]
  simp only [Except.map, List.append_nil, List.append_assoc]

/-! ## What a response says about the plan -/

/-- What the severities of a response say about a plan. -/
structure Response.Grades (plan : Option Tree) (r : Response) : Prop where
  /-- Severities never increase along the suggestions. -/
  descending : r.suggestions.Pairwise fun a b => b.severity.rank ≤ a.severity.rank
  hasHigh_iff : r.hasHighSeverity = true ↔ ∃ node ∈ planOrder plan, node.saysSeqScan = true
  high : r.countBySeverity .high = (planScans plan).length
  low : r.countBySeverity .low = 0
  total : r.countBySeverity .high + r.countBySeverity .medium + r.countBySeverity .low
    = r.suggestions.length

namespace Response

/-- Every suggestion is of one of the three severities. -/
theorem countBySeverity_total (r : Response) :
    r.countBySeverity .high + r.countBySeverity .medium + r.countBySeverity .low
      = r.suggestions.length := by
  obtain ⟨ast, plan, suggestions⟩ := r
  simp only [countBySeverity]
  induction suggestions with
  | nil => rfl
  | cons s rest ih =>
      rw [List.length_cons, ← ih]
      cases hs : s.severity <;> simp [hs] <;> omega

/-- There is a severe suggestion when the number of them is not zero. -/
theorem hasHighSeverity_iff (r : Response) :
    r.hasHighSeverity = true ↔ 0 < r.countBySeverity .high := by
  rw [hasHighSeverity, countBySeverity, List.length_filter_pos_iff, List.any_eq_true]

end Response

section OneSeverity

variable {l : List Suggestion} {a b : Severity} (h : ∀ s ∈ l, s.severity = a)

include h

theorem filter_severity_eq_self : l.filter (fun s => s.severity == a) = l :=
  List.filter_eq_self.mpr fun s hs => beq_iff_eq.mpr (h s hs)

theorem filter_severity_eq_nil (hab : a ≠ b) : l.filter (fun s => s.severity == b) = [] :=
  List.filter_eq_nil_iff.mpr fun s hs hb => hab ((h s hs).symm.trans (beq_iff_eq.mp hb))

theorem pairwise_severity : l.Pairwise fun s t => t.severity.rank ≤ s.severity.rank := by
  refine List.pairwise_of_forall_mem_list fun s hs t ht => Nat.le_of_eq ?_
  rw [h s hs, h t ht]

end OneSeverity

/-- A response grades a plan when it has a severe suggestion for each scan of
the plan, and after these only suggestions of medium severity. -/
theorem Response.grades_of_append {plan : Option Tree} {r : Response}
    {severe others : List Suggestion} (hr : r.suggestions = severe ++ others)
    (hsevere : ∀ s ∈ severe, s.severity = .high) (hothers : ∀ s ∈ others, s.severity = .medium)
    (hlength : severe.length = (planScans plan).length) : r.Grades plan := by
  have hhigh : r.countBySeverity .high = (planScans plan).length := by
    rw [countBySeverity, hr, List.filter_append, filter_severity_eq_self hsevere,
      filter_severity_eq_nil hothers (by decide), List.append_nil, hlength]
  refine ⟨?_, ?_, hhigh, ?_, countBySeverity_total r⟩
  · rw [hr, List.pairwise_append]
    refine ⟨pairwise_severity hsevere, pairwise_severity hothers, fun s hs t ht => ?_⟩
    rw [hsevere s hs, hothers t ht]
    decide
  · rw [hasHighSeverity_iff, hhigh, planScans, List.length_filter_pos_iff]
  · rw [countBySeverity, hr, List.filter_append, filter_severity_eq_nil hsevere (by decide),
      filter_severity_eq_nil hothers (by decide)]
    rfl

/-- The suggestions of the built-in rules grade the plan, in any response. -/
theorem Response.grades_suggestions (plan ast ast' plan' : Option Tree) :
    Response.Grades plan
      ⟨ast', plan', scanSuggestions plan ++ patternSuggestions ast ++ functionSuggestions ast⟩ := by
  exact grades_of_append (List.append_assoc _ _ _) (fun s => severity_scanSuggestions)
    (fun s => severity_other_suggestions) (forall₂_scanSuggestions plan).length_eq.symm

/-- The built-in rules suggest one severe thing for each sequential scan of the
plan, under the name of what it reads, and then only things of medium severity,
whatever the request is; a response that holds their suggestions grades the
plan. -/
theorem evaluate_default_graded (input : RuleInput) :
    Engine.default.evaluate input
        = .ok (scanSuggestions input.plan ++ patternSuggestions input.ast
            ++ functionSuggestions input.ast) ∧
      List.Forall₂ Suggestion.IsAboutScan (planScans input.plan) (scanSuggestions input.plan) ∧
      (∀ s ∈ scanSuggestions input.plan, s.severity = .high) ∧
      (∀ s ∈ patternSuggestions input.ast ++ functionSuggestions input.ast,
        s.severity = .medium) ∧
      ∀ ast plan, Response.Grades input.plan
        ⟨ast, plan, scanSuggestions input.plan ++ patternSuggestions input.ast
          ++ functionSuggestions input.ast⟩ := by
  refine ⟨evaluate_default_eq input, forall₂_scanSuggestions input.plan,
    fun s => severity_scanSuggestions, fun s => severity_other_suggestions, ?_⟩
  intro ast plan
  exact Response.grades_suggestions input.plan input.ast ast plan

end QueryAdvisor
