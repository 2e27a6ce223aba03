import QueryAdvisor.Tree.Walk

/-!
# Execution plans

A node of an execution plan is an object; its children are the objects under
`Plans`. Everything else about a node is read on demand, so a truncated or
malformed plan has fewer nodes and is never an error. An empty text counts as
absent.
-/

namespace QueryAdvisor

/-- A node of an execution plan. -/
structure PlanNode where
  fields : Fields

namespace PlanNode

/-- The node that a tree is. -/
def ofTree? (t : Tree) : Option PlanNode :=
  t.asObject?.map PlanNode.mk

/-- The text under a key, unless it is empty. -/
def text? (node : PlanNode) (key : String) : Option String :=
  (Fields.text? node.fields key).filter (· ≠ "")

/-- The kind of step, such as `Seq Scan`. -/
def kind? (node : PlanNode) : Option String :=
  node.text? "Node Type"

/-- Whether the node reads a whole relation. -/
def isSeqScan (node : PlanNode) : Bool :=
  node.kind? == some "Seq Scan"

def relation? (node : PlanNode) : Option String :=
  node.text? "Relation Name"

def alias? (node : PlanNode) : Option String :=
  node.text? "Alias"

/-- The condition that rows must meet at this node. -/
def filter? (node : PlanNode) : Option String :=
  node.text? "Filter"

/-- The children, in order; entries that are no objects are left out. -/
def children (node : PlanNode) : List PlanNode :=
  ((Fields.list? node.fields "Plans").getD []).filterMap ofTree?

/-- The size of the tree under a node. -/
def size (node : PlanNode) : Nat :=
  1 + Tree.sizeFields node.fields

/-- The size of the trees under some nodes. -/
def sizes : List PlanNode → Nat
  | [] => 0
  | node :: rest => node.size + sizes rest

theorem sizes_append (a b : List PlanNode) : sizes (a ++ b) = sizes a + sizes b := by
  induction a with
  | nil => simp only [List.nil_append, sizes, Nat.zero_add]
  | cons node rest ih => simp only [List.cons_append, sizes, ih, Nat.add_assoc]

theorem sizes_filterMap_le (items : List Tree) :
    sizes (items.filterMap ofTree?) ≤ Tree.sizeItems items := by
  induction items with
  | nil => simp [sizes]
  | cons t rest ih =>
      simp only [List.filterMap_cons, Tree.sizeItems]
      cases t <;>
        simp only [ofTree?, Tree.asObject?, Option.map_none, Option.map_some, Tree.size, sizes,
          size] at ih ⊢ <;> omega

theorem size_le_of_get? {fields : Fields} {key : String} {t : Tree}
    (h : Fields.get? fields key = some t) : t.size ≤ Tree.sizeFields fields := by
  induction fields with
  | nil => simp [Fields.get?] at h
  | cons f rest ih =>
      obtain ⟨k, v⟩ := f
      simp only [Fields.get?] at h
      simp only [Tree.sizeFields]
      split at h
      · cases h
        omega
      · have := ih h
        omega

/-- The children of a node are smaller than the node, all together. -/
theorem sizes_children_lt (node : PlanNode) : sizes node.children < node.size := by
  unfold children size
  cases h : Fields.list? node.fields "Plans" with
  | none =>
      simp only [Option.getD_none, List.filterMap_nil, sizes]
      omega
  | some items =>
      simp only [Fields.list?, Option.bind_eq_some_iff] at h
      obtain ⟨t, ht, hitems⟩ := h
      cases t <;> simp only [Tree.asList?, Option.some.injEq, reduceCtorEq] at hitems
      subst hitems
      have hle := size_le_of_get? ht
      have hsum := sizes_filterMap_le
      specialize hsum (by assumption)
      simp only [Tree.size] at hle
      simp only [Option.getD_some]
      omega

end PlanNode

/-- The root of a plan: the first item of a list, and in either case what stands
under `Plan`, if anything does. -/
def planRoot? : Option Tree → Option Tree
  | none => none
  | some (.list []) => none
  | some (.list (t :: _)) => some ((t.field? "Plan").getD t)
  | some t => some ((t.field? "Plan").getD t)

/-- The nodes still to be met from a stack of pending nodes, after those already
seen (latest first). -/
def planVisit (pending : List PlanNode) (seen : List PlanNode) : List PlanNode :=
  match pending with
  | [] => seen.reverse
  | node :: rest => planVisit (node.children ++ rest) (node :: seen)
termination_by PlanNode.sizes pending
decreasing_by
  have := node.sizes_children_lt
  simp only [PlanNode.sizes, PlanNode.sizes_append] at this ⊢
  omega

/-- The node that a tree is and all nodes under it, parents first and children
in order. -/
def planNodesFrom (root : Option Tree) : List PlanNode :=
  planVisit (root.bind PlanNode.ofTree?).toList []

/-- The nodes of a plan, from its root on. -/
def planNodes (plan : Option Tree) : List PlanNode :=
  planNodesFrom (planRoot? plan)

end QueryAdvisor
