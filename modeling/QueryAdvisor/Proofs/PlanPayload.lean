import QueryAdvisor.Plan.Payload
import QueryAdvisor.Proofs.PlanOrder
import QueryAdvisor.Rule.Basic

/-!
# What is unwrapped of a payload

A payload is unwrapped twice. Normalizing it takes the object out of a list and
leaves what is around the root node; looking for the root takes the first item
of a list as well and then goes to what stands under `Plan`. So the list may be
gone already when the root is looked for, and it must make no difference.

It makes none because both agree on which object a payload holds. `HoldsPlan` says
which one, and the nodes of a payload are those from the root of that object on;
a payload that holds no object has no nodes and is refused.
-/

namespace QueryAdvisor

theorem normalizePlan_eq_ok_iff {p q : Tree} :
    normalizePlan p = .ok q ↔ ∃ fields, q = .object fields ∧ HoldsPlan p fields := by
  constructor
  · intro h
    rw [normalizePlan.eq_def] at h
    split at h <;> cases h
    · exact ⟨_, rfl, .object⟩
    · exact ⟨_, rfl, .list⟩
  · rintro ⟨fields, rfl, hp⟩
    cases hp with
    | object => rfl
    | list => rfl

theorem not_holds_of_normalizePlan_eq_error {p : Tree} {e : PlanError}
    (h : normalizePlan p = .error e) (fields : Fields) : ¬ HoldsPlan p fields := by
  intro hp
  rw [normalizePlan_eq_ok_iff.mpr ⟨fields, rfl, hp⟩] at h
  cases h

theorem planNodes_of_holds {p : Tree} {fields : Fields} (h : HoldsPlan p fields) :
    planNodes (some p) = (rootOf fields).planOrder := by
  rw [planNodes_eq_planOrder, planOrder_of_holds h]

/-- A node is found under `Plan`, and also bare when it has no such key itself. -/
theorem planNodes_bare_or_wrapped {n fields : Fields} (hbare : n.get? "Plan" = none)
    (hwrapped : fields.get? "Plan" = some (.object n)) (xs : List Tree) :
    ∀ p ∈ [Tree.object n, .list (.object n :: xs), .object fields, .list (.object fields :: xs)],
      planNodes (some p) = (Tree.object n).planOrder := by
  have hbareRoot : rootOf n = .object n := by rw [rootOf, hbare, Option.getD_none]
  have hwrappedRoot : rootOf fields = .object n := by rw [rootOf, hwrapped, Option.getD_some]
  simp only [List.forall_mem_cons]
  refine ⟨?_, ?_, ?_, ?_, by simp⟩
  · rw [planNodes_of_holds .object, hbareRoot]
  · rw [planNodes_of_holds .list, hbareRoot]
  · rw [planNodes_of_holds .object, hwrappedRoot]
  · rw [planNodes_of_holds .list, hwrappedRoot]

/-- Normalizing a payload gives an object that is normal already and has the
same nodes, and refuses only what has none. A root node is met in the same way
bare, under `Plan`, and either of these at the start of a list. -/
theorem normalizePlan_keeps_planNodes (input : RuleInput) (p : Tree) :
    (∀ q, normalizePlan p = .ok q →
        (∃ fields, q = .object fields) ∧ normalizePlan q = .ok q ∧
          RuleInput.planNodes { input with plan := some p }
            = RuleInput.planNodes { input with plan := some q }) ∧
      (∀ e, normalizePlan p = .error e →
        RuleInput.planNodes { input with plan := some p } = []) ∧
      ∀ (n fields : Fields) (xs : List Tree),
        n.get? "Plan" = none → fields.get? "Plan" = some (.object n) →
        ∀ payload ∈ [Tree.object n, .list (.object n :: xs), .object fields,
            .list (.object fields :: xs)],
          RuleInput.planNodes { input with plan := some payload } = (Tree.object n).planOrder := by
  refine ⟨?_, ?_, fun n fields xs hbare hwrapped => planNodes_bare_or_wrapped hbare hwrapped xs⟩
  · intro q h
    obtain ⟨fields, rfl, hp⟩ := normalizePlan_eq_ok_iff.mp h
    refine ⟨⟨fields, rfl⟩, normalizePlan_eq_ok_iff.mpr ⟨fields, rfl, .object⟩, ?_⟩
    rw [RuleInput.planNodes, RuleInput.planNodes, planNodes_of_holds hp,
      planNodes_of_holds .object]
  · intro e h
    rw [RuleInput.planNodes, planNodes_eq_planOrder,
      planOrder_eq_nil_of_not_holds (not_holds_of_normalizePlan_eq_error h)]

/-- A sequential scan with another one below it. -/
def nestedScans : Fields :=
  [("Node Type", .text "Seq Scan"), ("Plans", .list [.object [("Node Type", .text "Seq Scan")]])]

/-- A list that starts with a wrapped node, and one that starts with a list, beside
the parse tree of a query. -/
theorem normalizePlan_of_nested_lists :
    let wrapped : Tree := .object [("Plan", .object nestedScans)]
    let nodes (payload : Tree) : List PlanNode :=
      RuleInput.planNodes ⟨some (.object [("stmts", .list [])]), some payload, {}⟩
    normalizePlan (.list [wrapped, .null]) = .ok wrapped ∧
      nodes (.list [wrapped, .null]) = nodes wrapped ∧
      nodes (.list [wrapped, .null]) = (Tree.object nestedScans).planOrder ∧
      (Tree.object nestedScans).planOrder.length = 2 ∧
      normalizePlan (.list [.list [wrapped]]) = .error .unexpectedShape ∧
      nodes (.list [.list [wrapped]]) = [] := by
  intro wrapped nodes
  let input : RuleInput := ⟨some (.object [("stmts", .list [])]), none, {}⟩
  obtain ⟨hkept, -, hforms⟩ := normalizePlan_keeps_planNodes input (.list [wrapped, .null])
  obtain ⟨-, hrefused, -⟩ := normalizePlan_keeps_planNodes input (.list [.list [wrapped]])
  refine ⟨rfl, (hkept _ rfl).2.2, ?_, rfl, rfl, hrefused _ rfl⟩
  exact hforms nestedScans [("Plan", .object nestedScans)] [.null] rfl rfl _ (by simp [wrapped])

end QueryAdvisor
