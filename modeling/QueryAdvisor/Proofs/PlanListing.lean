import QueryAdvisor.Proofs.PlanOrder
import QueryAdvisor.Report.PlanOutline

/-!
# The outline of a plan shows the nodes the rules look at

The rules take the nodes of a plan off a stack; the report draws an outline that
a recursion makes of them. Neither knows of the other, and they are shown side
by side, so they must be about the same nodes.

The common ground is the pre-order. A visit from any stack comes to an end, and
what it has met by then is the pre-order of what was on the stack. An outline is
listed in pre-order too, each node by its label and the number of its children,
and such a listing is prefix notation: it leaves no doubt where a subtree ends,
so only one outline has it. The outline of a plan is therefore the one that
lists the nodes of the visit.
-/

namespace QueryAdvisor

/-! ## A visit step by step -/

/-- The nodes met from a stack on, where a node is taken off the top and its
children are put in its place, until the stack is empty. -/
inductive Visits : (stack nodes : List PlanNode) → Prop where
  | done : Visits [] []
  | next {node : PlanNode} {rest nodes : List PlanNode}
      (h : Visits (node.children ++ rest) nodes) : Visits (node :: rest) (node :: nodes)

/-- The stack that a visit of a plan starts from. -/
def planStack (plan : Option Tree) : List PlanNode :=
  ((planRoot? plan).bind PlanNode.ofTree?).toList

/-- A visit comes to an end, from every stack. -/
theorem exists_visits (pending seen : List PlanNode) :
    ∃ nodes, planVisit pending seen = seen.reverse ++ nodes ∧ Visits pending nodes := by
  fun_induction planVisit pending seen with
  | case1 seen => exact ⟨[], (List.append_nil _).symm, .done⟩
  | case2 seen node rest ih =>
      obtain ⟨nodes, hnodes, hvisits⟩ := ih
      refine ⟨node :: nodes, ?_, .next hvisits⟩
      rw [hnodes, List.reverse_cons, List.append_assoc, List.singleton_append]

theorem Visits.unique {stack nodes nodes' : List PlanNode} (h : Visits stack nodes)
    (h' : Visits stack nodes') : nodes = nodes' := by
  induction h generalizing nodes' with
  | done =>
      cases h'
      rfl
  | next _ ih =>
      cases h' with
      | next h' => rw [ih h']

theorem visits_planStack_iff (plan : Option Tree) (nodes : List PlanNode) :
    Visits (planStack plan) nodes ↔ nodes = planNodes plan := by
  obtain ⟨met, hmet, hvisits⟩ := exists_visits (planStack plan) []
  have hnodes : planNodes plan = met := hmet
  rw [hnodes]
  constructor
  · intro h
    exact h.unique hvisits
  · rintro rfl
    exact hvisits

/-! ## Listing an outline -/

namespace Outline

mutual

/-- The nodes of an outline in pre-order, each by its label and the number of its
children. -/
def listing : Outline → List (String × Nat)
  | .node label children => (label, children.length) :: listings children

/-- The listings of some outlines, one after the other. -/
def listings : List Outline → List (String × Nat)
  | [] => []
  | o :: rest => listing o ++ listings rest

end

mutual

/-- A listing can be told from what follows it. -/
theorem eq_of_listing_append (a b : Outline) {s t : List (String × Nat)}
    (h : a.listing ++ s = b.listing ++ t) : a = b ∧ s = t := by
  match a, b with
  | .node label children, .node label' children' =>
      rw [listing, listing, List.cons_append, List.cons_append] at h
      obtain ⟨hnode, hrest⟩ := List.cons.inj h
      obtain ⟨rfl, hlength⟩ := Prod.mk.inj hnode
      -- the entry says how many children to read, so the siblings that follow are not taken in
      obtain ⟨rfl, rfl⟩ := eq_of_listings_append children children' hlength hrest
      exact ⟨rfl, rfl⟩

theorem eq_of_listings_append (as bs : List Outline) {s t : List (String × Nat)}
    (hlength : as.length = bs.length) (h : listings as ++ s = listings bs ++ t) :
    as = bs ∧ s = t := by
  match as, bs with
  | [], [] =>
      rw [listings, List.nil_append, List.nil_append] at h
      exact ⟨rfl, h⟩
  | a :: as, b :: bs =>
      rw [listings, listings, List.append_assoc, List.append_assoc] at h
      obtain ⟨rfl, hrest⟩ := eq_of_listing_append a b h
      obtain ⟨rfl, rfl⟩ := eq_of_listings_append as bs (Nat.succ.inj hlength) hrest
      exact ⟨rfl, rfl⟩
  | [], _ :: _ | _ :: _, [] => cases hlength

end

theorem listing_injective {a b : Outline} (h : a.listing = b.listing) : a = b :=
  (eq_of_listing_append a b (s := []) (t := []) (by rw [h])).1

end Outline

/-! ## The outline of a plan -/

/-- What an outline shows of a plan node. -/
def planEntry (node : PlanNode) : String × Nat :=
  (planLabel node, node.children.length)

theorem length_planNodeOutlines (nodes : List PlanNode) :
    (planNodeOutlines nodes).length = nodes.length := by
  induction nodes with
  | nil => rw [planNodeOutlines, List.length_nil, List.length_nil]
  | cons node rest ih => rw [planNodeOutlines, List.length_cons, ih, List.length_cons]

mutual

theorem listing_planNodeOutline (node : PlanNode) :
    (planNodeOutline node).listing = (Tree.object node.fields).planOrder.map planEntry := by
  rw [planNodeOutline, Outline.listing, length_planNodeOutlines,
    listings_planNodeOutlines node.children, Tree.planOrder, Tree.planOrderFields_eq_flatMap,
    List.map_cons, planEntry]
termination_by (node.size, 0)
decreasing_by
  exact Prod.Lex.left _ _ node.sizes_children_lt

theorem listings_planNodeOutlines (nodes : List PlanNode) :
    Outline.listings (planNodeOutlines nodes)
      = (nodes.flatMap fun node => (Tree.object node.fields).planOrder).map planEntry := by
  match nodes with
  | [] => rw [planNodeOutlines, Outline.listings, List.flatMap_nil, List.map_nil]
  | node :: rest =>
      rw [planNodeOutlines, Outline.listings, listing_planNodeOutline node,
        listings_planNodeOutlines rest, List.flatMap_cons, List.map_append]
termination_by (PlanNode.sizes nodes, 1)
decreasing_by
  · simp only [PlanNode.sizes, Prod.lex_def]
    omega
  · simp only [PlanNode.sizes, PlanNode.size, Prod.lex_def]
    omega

end

/-- A plan with a root node has the nodes of the root's pre-order. -/
theorem planNodes_of_root {plan : Option Tree} {root : PlanNode}
    (h : (planRoot? plan).bind PlanNode.ofTree? = some root) :
    planNodes plan = (Tree.object root.fields).planOrder := by
  rw [planNodes, planNodesFrom, h, planVisit_eq_append, List.reverse_nil, List.nil_append,
    Option.toList_some, List.flatMap_cons, List.flatMap_nil, List.append_nil]

theorem planNodes_of_no_root {plan : Option Tree}
    (h : (planRoot? plan).bind PlanNode.ofTree? = none) : planNodes plan = [] := by
  rw [planNodes, planNodesFrom, h, planVisit_eq_append]
  rfl

theorem planOutline?_eq_none_iff (plan : Option Tree) :
    planOutline? plan = none ↔ planNodes plan = [] := by
  rw [planOutline?, Option.map_eq_none_iff]
  constructor
  · exact planNodes_of_no_root
  · intro h
    cases hroot : (planRoot? plan).bind PlanNode.ofTree? with
    | none => rfl
    | some root =>
        rw [planNodes_of_root hroot, Tree.planOrder] at h
        cases h

theorem planOutline?_eq_some_iff (plan : Option Tree) (o : Outline) :
    planOutline? plan = some o ↔ o.listing = (planNodes plan).map planEntry := by
  rw [planOutline?]
  cases hroot : (planRoot? plan).bind PlanNode.ofTree? with
  | none =>
      rw [planNodes_of_no_root hroot, Option.map_none, List.map_nil]
      cases o
      simp [Outline.listing]
  | some root =>
      rw [planNodes_of_root hroot, Option.map_some, ← listing_planNodeOutline, Option.some.injEq]
      constructor
      · rintro rfl
        rfl
      · intro h
        exact (Outline.listing_injective h).symm

/-- A visit of a plan ends, having met the nodes of the pre-order, and these are
the nodes that the rules look at. There is an outline exactly when there are any;
it is the one outline that lists them in their order, each under its label and
with as many children as it has. -/
theorem planOutline_lists_planNodes (plan : Option Tree) :
    (∀ nodes, Visits (planStack plan) nodes ↔ nodes = planOrder plan) ∧
      planNodes plan = planOrder plan ∧
      (planOutline? plan = none ↔ planNodes plan = []) ∧
      ∀ o, planOutline? plan = some o ↔
        o.listing = (planNodes plan).map fun node => (planLabel node, node.children.length) := by
  refine ⟨?_, planNodes_eq_planOrder plan, planOutline?_eq_none_iff plan,
    planOutline?_eq_some_iff plan⟩
  intro nodes
  rw [visits_planStack_iff, planNodes_eq_planOrder]

end QueryAdvisor
