import Mathlib.Data.List.Duplicate
import QueryAdvisor.Proofs.CallFindings
import QueryAdvisor.Proofs.QuotedLabel

/-!
# A suggestion identifies its finding

A suggestion is made of fixed sentences into which labels are put: names and
patterns that come from the query or the plan and may hold anything, also the
words of the sentences. A `Notice` is what such a suggestion tells, the rule and
the labels, and the text determines it.

The label of a scan is quoted, and a quoted label determines its text. The other
labels are put in as they are, and one sentence with two of them can be read in
several ways. But each of these suggestions repeats its column in a sentence
that holds nothing else, so the column is known, and then the other label is
what is left of the first sentence.

What is told apart by the rules is finer in one place: a pattern on no column
and the same pattern on a column called `column` are two findings with the same
labels. That is the only way to two equal suggestions of one rule about a parse
tree.
-/

namespace QueryAdvisor

open ParseTree

/-! ## Labels in sentences -/

/-- What stands between two fixed pieces of a sentence is determined by it. -/
theorem between_inj {front back a b : String} :
    front ++ a ++ back = front ++ b ++ back ↔ a = b := by
  rw [String.append_left_inj, String.append_right_inj]

theorem SeqScan.suggestion_inj {a b : String} : suggestion a = suggestion b ↔ a = b := by
  constructor
  · intro h
    exact Text.quoted_injective (between_inj.mp (congrArg Suggestion.description h))
  · rintro rfl
    rfl

namespace LeadingWildcard

theorem Finding.suggestion_eq_iff {f g : Finding} :
    f.suggestion = g.suggestion ↔ f.pattern = g.pattern ∧ f.label = g.label := by
  constructor
  · intro h
    have hlabel : f.label = g.label := between_inj.mp (congrArg Suggestion.recommendation h)
    have hdescription := congrArg Suggestion.description h
    simp only [suggestion, hlabel, String.append_left_inj, String.append_right_inj]
      at hdescription
    exact ⟨hdescription, hlabel⟩
  · rintro ⟨hpattern, hlabel⟩
    rw [suggestion, suggestion, hpattern, hlabel]

-- the first sentence alone does not tell the pattern
example :
    (Finding.mk (some "x'` prevents index usage on y") "%").suggestion.description
      = (Finding.mk (some "y") "%'` prevents index usage on x").suggestion.description := by
  decide

end LeadingWildcard

theorem FunctionOnColumn.Finding.suggestion_inj {f g : Finding} :
    f.suggestion = g.suggestion ↔ f = g := by
  constructor
  · intro h
    have hcolumn : f.column = g.column := between_inj.mp (congrArg Suggestion.recommendation h)
    have hdescription := congrArg Suggestion.description h
    simp only [suggestion, hcolumn, String.append_left_inj, String.append_right_inj]
      at hdescription
    obtain ⟨function, column⟩ := f
    exact (Finding.mk.injEq ..).mpr ⟨hdescription, hcolumn⟩
  · rintro rfl
    rfl

/-! ## What a suggestion tells -/

/-- What one of the built-in rules tells, by the labels it shows. -/
inductive Notice where
  | scan (relation : String)
  | wildcard (pattern column : String)
  | call (function column : String)
deriving DecidableEq, Repr

namespace Notice

/-- The name of the rule that a notice comes from. -/
def rule : Notice → String
  | .scan _ => Rule.seqScan.name
  | .wildcard _ _ => Rule.leadingWildcard.name
  | .call _ _ => Rule.functionOnColumn.name

/-- The labels that a notice shows. -/
def labels : Notice → List String
  | .scan relation => [relation]
  | .wildcard pattern column => [pattern, column]
  | .call function column => [function, column]

/-- The suggestion that shows a notice. -/
def suggestion : Notice → Suggestion
  | .scan relation => SeqScan.suggestion relation
  | .wildcard pattern column => LeadingWildcard.Finding.suggestion ⟨some column, pattern⟩
  | .call function column => FunctionOnColumn.Finding.suggestion ⟨function, column⟩

theorem title_scan (relation : String) :
    (scan relation).suggestion.title = "Sequential scan detected" := rfl

theorem title_wildcard (pattern column : String) :
    (wildcard pattern column).suggestion.title = "Leading wildcard in LIKE pattern" := rfl

theorem title_call (function column : String) :
    (call function column).suggestion.title = "Function applied to column in predicate" := rfl

theorem suggestion_inj {a b : Notice} : a.suggestion = b.suggestion ↔ a = b := by
  constructor
  · intro h
    -- suggestions of different rules differ in their titles already
    have htitle := congrArg Suggestion.title h
    cases a with
    | scan relation =>
        cases b with
        | scan relation' => rw [SeqScan.suggestion_inj.mp h]
        | wildcard _ _ => simp [title_scan, title_wildcard] at htitle
        | call _ _ => simp [title_scan, title_call] at htitle
    | wildcard pattern column =>
        cases b with
        | scan _ => simp [title_scan, title_wildcard] at htitle
        | wildcard pattern' column' =>
            obtain ⟨hpattern, hcolumn⟩ := LeadingWildcard.Finding.suggestion_eq_iff.mp h
            exact (wildcard.injEq ..).mpr ⟨hpattern, hcolumn⟩
        | call _ _ => simp [title_wildcard, title_call] at htitle
    | call function column =>
        cases b with
        | scan _ => simp [title_scan, title_call] at htitle
        | wildcard _ _ => simp [title_wildcard, title_call] at htitle
        | call function' column' =>
            exact (call.injEq ..).mpr
              ((FunctionOnColumn.Finding.mk.injEq ..).mp
                (FunctionOnColumn.Finding.suggestion_inj.mp h))
  · rintro rfl
    rfl

theorem eq_iff_rule_and_labels {a b : Notice} :
    a = b ↔ a.rule = b.rule ∧ a.labels = b.labels := by
  constructor
  · rintro rfl
    exact ⟨rfl, rfl⟩
  · rintro ⟨hrule, hlabels⟩
    cases a <;> cases b <;>
      simp [rule, labels, Rule.seqScan, Rule.leadingWildcard, Rule.functionOnColumn]
        at hrule hlabels ⊢ <;>
      exact hlabels

end Notice

/-! ## What the rules tell about an input -/

/-- A notice for each sequential scan of the plan. -/
def scanNotices (input : RuleInput) : List Notice :=
  (planScans input.plan).map fun node => .scan node.scanned

/-- What the rule about patterns finds, each finding once. -/
def patternFindings (input : RuleInput) : List LeadingWildcard.Finding :=
  distinct (input.comparisons.filterMap LeadingWildcard.finding?)

def patternNotices (input : RuleInput) : List Notice :=
  (patternFindings input).map fun f => .wildcard f.pattern (f.column.getD "column")

/-- What the rule about functions finds, each finding once. -/
def callFindings (input : RuleInput) : List FunctionOnColumn.Finding :=
  distinct ((input.comparisons.flatMap Comparison.operands).filterMap FunctionOnColumn.finding?)

def callNotices (input : RuleInput) : List Notice :=
  (callFindings input).map fun f => .call f.function f.column

theorem scanSuggestions_eq_notices (input : RuleInput) :
    scanSuggestions input.plan = (scanNotices input).map Notice.suggestion := by
  rw [scanSuggestions, scanNotices, List.map_map]
  rfl

theorem patternSuggestions_eq_findings (input : RuleInput) :
    patternSuggestions input.ast
      = (patternFindings input).map LeadingWildcard.Finding.suggestion := by
  rw [patternSuggestions, ← comparisons_eq_treeComparisons]
  rfl

theorem functionSuggestions_eq_findings (input : RuleInput) :
    functionSuggestions input.ast
      = (callFindings input).map FunctionOnColumn.Finding.suggestion := by
  rw [functionSuggestions, ← comparisons_eq_treeComparisons]
  rfl

theorem map_patternNotices (input : RuleInput) :
    (patternNotices input).map Notice.suggestion
      = (patternFindings input).map LeadingWildcard.Finding.suggestion := by
  rw [patternNotices, List.map_map]
  rfl

theorem map_callNotices (input : RuleInput) :
    (callNotices input).map Notice.suggestion
      = (callFindings input).map FunctionOnColumn.Finding.suggestion := by
  rw [callNotices, List.map_map]
  rfl

/-! ## Equal suggestions of one rule -/

theorem mem_patternFindings {input : RuleInput} {f : LeadingWildcard.Finding} :
    f ∈ patternFindings input ↔ ∃ fields ∈ input.astObjects, LeadingWildcard.Qualifies fields f := by
  rw [patternFindings, mem_distinct, RuleInput.comparisons, List.filterMap_filterMap,
    List.mem_filterMap]
  simp only [LeadingWildcard.qualifies_iff]
  rfl

/-- The text of a finding leaves open one thing: whether there is no column, or
one that is called as if there were none. -/
theorem LeadingWildcard.Finding.unnamed_of_ne {f g : Finding} (h : f.suggestion = g.suggestion)
    (hne : f ≠ g) :
    ∃ pattern, (f = ⟨none, pattern⟩ ∧ g = ⟨some "column", pattern⟩) ∨
      (f = ⟨some "column", pattern⟩ ∧ g = ⟨none, pattern⟩) := by
  obtain ⟨column, pattern⟩ := f
  obtain ⟨column', pattern'⟩ := g
  obtain ⟨hpattern, hlabel⟩ := suggestion_eq_iff.mp h
  obtain rfl : pattern = pattern' := hpattern
  refine ⟨pattern, ?_⟩
  cases column with
  | none =>
      cases column' with
      | none => exact absurd rfl hne
      | some name =>
          obtain rfl : "column" = name := hlabel
          exact .inl ⟨rfl, rfl⟩
  | some name =>
      cases column' with
      | none =>
          obtain rfl : name = "column" := hlabel
          exact .inr ⟨rfl, rfl⟩
      | some name' =>
          obtain rfl : name = name' := hlabel
          exact absurd rfl hne

/-- What comes twice out of a list without repetition comes from two of its members. -/
theorem duplicate_map_iff {α β : Type} {f : α → β} {l : List α} (hl : l.Nodup) {b : β} :
    List.Duplicate b (l.map f) ↔ ∃ x ∈ l, ∃ y ∈ l, x ≠ y ∧ f x = b ∧ f y = b := by
  induction l with
  | nil => simp
  | cons a rest ih =>
      obtain ⟨hfresh, hrest⟩ := List.nodup_cons.mp hl
      rw [List.map_cons, List.duplicate_cons_iff, ih hrest]
      constructor
      · rintro (⟨ha, hb⟩ | ⟨x, hx, y, hy, hxy⟩)
        · obtain ⟨y, hy, hyb⟩ := List.mem_map.mp hb
          have hne : a ≠ y := fun h => hfresh (h ▸ hy)
          exact ⟨a, List.mem_cons_self, y, List.mem_cons_of_mem a hy, hne, ha, hyb⟩
        · exact ⟨x, List.mem_cons_of_mem a hx, y, List.mem_cons_of_mem a hy, hxy⟩
      · rintro ⟨x, hx, y, hy, hne, hxb, hyb⟩
        rcases List.mem_cons.mp hx with rfl | hx'
        · rcases List.mem_cons.mp hy with rfl | hy'
          · exact absurd rfl hne
          · exact .inl ⟨hxb, List.mem_map.mpr ⟨y, hy', hyb⟩⟩
        · rcases List.mem_cons.mp hy with rfl | hy'
          · exact .inl ⟨hyb, List.mem_map.mpr ⟨x, hx', hxb⟩⟩
          · exact .inr ⟨x, hx', y, hy', hne, hxb, hyb⟩

theorem duplicate_patternNotices_iff (input : RuleInput) (s : Suggestion) :
    List.Duplicate s ((patternNotices input).map Notice.suggestion) ↔
      ∃ pattern, s = (Notice.wildcard pattern "column").suggestion ∧
        ⟨none, pattern⟩ ∈ patternFindings input ∧
        ⟨some "column", pattern⟩ ∈ patternFindings input := by
  have hfindings : (patternFindings input).Nodup := nodup_distinct _
  rw [map_patternNotices, duplicate_map_iff hfindings]
  constructor
  · rintro ⟨f, hf, g, hg, hne, rfl, hsame⟩
    obtain ⟨pattern, ⟨rfl, rfl⟩ | ⟨rfl, rfl⟩⟩ :=
      LeadingWildcard.Finding.unnamed_of_ne hsame.symm hne
    · exact ⟨pattern, rfl, hf, hg⟩
    · exact ⟨pattern, rfl, hg, hf⟩
  · rintro ⟨pattern, rfl, hnone, hsome⟩
    exact ⟨_, hnone, _, hsome, by simp, rfl, rfl⟩

theorem nodup_callNotices (input : RuleInput) :
    ((callNotices input).map Notice.suggestion).Nodup := by
  rw [map_callNotices]
  refine (nodup_distinct _).map fun f g h => ?_
  exact FunctionOnColumn.Finding.suggestion_inj.mp h

/-- Every suggestion of the built-in rules shows a notice, and two suggestions
are equal exactly when they come from the same rule and show the same labels. So
the rule about functions never repeats itself, and the rule about patterns
repeats exactly what it suggests of a pattern that is compared with something
that has no usable name and also with a column called `column`. -/
theorem suggestions_identify_findings (input : RuleInput) :
    Rule.seqScan.apply input = .ok ((scanNotices input).map Notice.suggestion) ∧
      Rule.leadingWildcard.apply input = .ok ((patternNotices input).map Notice.suggestion) ∧
      Rule.functionOnColumn.apply input = .ok ((callNotices input).map Notice.suggestion) ∧
      Engine.default.evaluate input
        = .ok ((scanNotices input ++ patternNotices input ++ callNotices input).map
            Notice.suggestion) ∧
      (∀ a b : Notice,
        a.suggestion = b.suggestion ↔ a.rule = b.rule ∧ a.labels = b.labels) ∧
      ((callNotices input).map Notice.suggestion).Nodup ∧
      ∀ s, List.Duplicate s ((patternNotices input).map Notice.suggestion) ↔
        ∃ pattern, s = (Notice.wildcard pattern "column").suggestion ∧
          (∃ fields ∈ input.astObjects, LeadingWildcard.Qualifies fields ⟨none, pattern⟩) ∧
          ∃ fields ∈ input.astObjects,
            LeadingWildcard.Qualifies fields ⟨some "column", pattern⟩ := by
  have hpatterns := (patternSuggestions_eq_findings input).trans (map_patternNotices input).symm
  have hcalls := (functionSuggestions_eq_findings input).trans (map_callNotices input).symm
  refine ⟨?_, ?_, ?_, ?_, ?_, nodup_callNotices input, ?_⟩
  · rw [apply_seqScan, scanSuggestions_eq_notices]
  · rw [apply_leadingWildcard, hpatterns]
  · rw [apply_functionOnColumn, hcalls]
  · rw [evaluate_default_eq, scanSuggestions_eq_notices, hpatterns, hcalls, List.map_append,
      List.map_append]
  · intro a b
    rw [Notice.suggestion_inj, Notice.eq_iff_rule_and_labels]
  · intro s
    simp only [duplicate_patternNotices_iff, mem_patternFindings]

end QueryAdvisor
