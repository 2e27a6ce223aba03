import QueryAdvisor.Plan.Basic

/-!
# The nodes of a plan in pre-order

`planVisit` takes plan nodes off a stack and reads the children of each when
it gets there. Here is the order it amounts to, as a recursion over the tree
that a plan is: an object is a node, and is followed by the nodes of the items
of its `Plans`, from left to right. What is no object is no node, and what is
no list has no items; neither is an error. The visit is then the recursion, by
one statement about a stack of any height.

Where the recursion starts is said by the forms of a payload: one that holds an
object, bare or at the start of a list, has its root under `Plan` or in that
object itself, and no other payload has nodes.
-/

namespace QueryAdvisor

namespace Tree

mutual

/-- The node that a tree is and the nodes under it, parents first. -/
def planOrder : Tree → List PlanNode
  | .object fields => ⟨fields⟩ :: planOrderFields fields
  | _ => []

/-- The nodes under the first field that is called `Plans`. -/
def planOrderFields : List (String × Tree) → List PlanNode
  | [] => []
  | (key, t) :: rest => if key = "Plans" then planOrderPlans t else planOrderFields rest

/-- The nodes under the value of `Plans`, which should be a list. -/
def planOrderPlans : Tree → List PlanNode
  | .list items => planOrderItems items
  | _ => []

/-- The nodes under some trees, from left to right. -/
def planOrderItems : List Tree → List PlanNode
  | [] => []
  | t :: rest => planOrder t ++ planOrderItems rest

end

/-- Only the trees that are nodes count. -/
theorem planOrderItems_eq_flatMap (items : List Tree) :
    planOrderItems items
      = (items.filterMap PlanNode.ofTree?).flatMap fun node => planOrder (.object node.fields) := by
  induction items with
  | nil => rw [planOrderItems, List.filterMap_nil, List.flatMap_nil]
  | cons t rest ih =>
      rw [planOrderItems, ih]
      cases t with
      | object fields => rfl
      | null | bool _ | number _ | text _ | list _ => simp only [planOrder, List.nil_append]; rfl

theorem planOrderPlans_eq (t : Tree) :
    planOrderPlans t = planOrderItems (t.asList?.getD []) := by
  cases t with
  | list items => rw [planOrderPlans]; rfl
  | null | bool _ | number _ | text _ | object _ => simp only [planOrderPlans]; rfl

/-- What lies under a node is what its children are and what lies under them. -/
theorem planOrderFields_eq_flatMap (fields : Fields) :
    planOrderFields fields
      = (PlanNode.mk fields).children.flatMap fun node => planOrder (.object node.fields) := by
  have hplans : planOrderFields fields
      = planOrderItems ((Fields.list? fields "Plans").getD []) := by
    rw [Fields.list?]
    induction fields with
    | nil => rw [planOrderFields, Fields.get?]; rfl
    | cons f rest ih =>
        obtain ⟨key, t⟩ := f
        rw [planOrderFields, Fields.get?]
        split
        · exact planOrderPlans_eq t
        · exact ih
  rw [hplans, planOrderItems_eq_flatMap, PlanNode.children]

end Tree

/-- A payload holds an object: it is that object, or a list that starts with it. -/
inductive HoldsPlan : Tree → Fields → Prop where
  | object {fields : Fields} : HoldsPlan (.object fields) fields
  | list {fields : Fields} {rest : List Tree} : HoldsPlan (.list (.object fields :: rest)) fields

/-- The root below an object: what stands under `Plan`, or else the object. -/
def rootOf (fields : Fields) : Tree :=
  (fields.get? "Plan").getD (.object fields)

/-- The nodes of a plan in pre-order, from the root of the object that it holds. -/
def planOrder : Option Tree → List PlanNode
  | some (.object fields) | some (.list (.object fields :: _)) => (rootOf fields).planOrder
  | _ => []

theorem planOrder_of_holds {p : Tree} {fields : Fields} (h : HoldsPlan p fields) :
    planOrder (some p) = (rootOf fields).planOrder := by
  cases h with
  | object => rfl
  | list => rfl

theorem planOrder_eq_nil_of_not_holds {p : Tree} (h : ∀ fields, ¬ HoldsPlan p fields) :
    planOrder (some p) = [] := by
  cases p with
  | object fields => exact absurd .object (h fields)
  | list items =>
      cases items with
      | nil => rfl
      | cons t rest =>
          cases t with
          | object fields => exact absurd .list (h fields)
          | null | bool _ | number _ | text _ | list _ => rfl
  | null | bool _ | number _ | text _ => rfl

/-- What a visit returns, from any stack and after any nodes seen. -/
theorem planVisit_eq_append (pending seen : List PlanNode) :
    planVisit pending seen
      = seen.reverse ++ pending.flatMap fun node => Tree.planOrder (.object node.fields) := by
  fun_induction planVisit pending seen with
  | case1 seen => rw [List.flatMap_nil, List.append_nil]
  | case2 seen node rest ih =>
      -- the children go on top of the stack, so they come before what was below the node
      rw [ih, List.reverse_cons, List.flatMap_append, List.flatMap_cons, Tree.planOrder,
        Tree.planOrderFields_eq_flatMap, List.append_assoc, List.cons_append, List.cons_append,
        List.nil_append]

/-- The nodes from a root on are met in pre-order. -/
theorem planNodesFrom_eq_planOrder (root : Tree) :
    planNodesFrom (some root) = root.planOrder := by
  rw [planNodesFrom, planVisit_eq_append, List.reverse_nil, List.nil_append]
  cases root with
  | object fields => exact List.append_nil _
  | null | bool _ | number _ | text _ | list _ => rfl

/-- The nodes of a plan are met in pre-order. -/
theorem planNodes_eq_planOrder (plan : Option Tree) : planNodes plan = planOrder plan := by
  rw [planNodes]
  cases plan with
  | none => exact planVisit_eq_append [] []
  | some p =>
      cases p with
      | object fields => exact planNodesFrom_eq_planOrder (rootOf fields)
      | list items =>
          cases items with
          | nil => exact planVisit_eq_append [] []
          | cons t rest =>
              cases t with
              | object fields => exact planNodesFrom_eq_planOrder (rootOf fields)
              -- what is no object is its own root, and that is no node
              | null | bool _ | number _ | text _ | list _ => exact planNodesFrom_eq_planOrder _
      | null | bool _ | number _ | text _ => exact planNodesFrom_eq_planOrder _

end QueryAdvisor
