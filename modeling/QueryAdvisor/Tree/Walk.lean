import QueryAdvisor.Tree.Basic

/-!
# Visiting every object of a tree

`Tree.objects` is the recursive pre-order: an object, then what its values
hold in key order; the items of a list in index order; nothing for a scalar.
`visit` computes the same sequence from a stack of pending trees, so that a
tree of any depth can be walked.
-/

namespace QueryAdvisor

namespace Tree

mutual

/-- The number of nodes of a tree. -/
def size : Tree → Nat
  | .list items => 1 + sizeItems items
  | .object fields => 1 + sizeFields fields
  | _ => 1

/-- The number of nodes of a list of trees. -/
def sizeItems : List Tree → Nat
  | [] => 0
  | t :: rest => size t + sizeItems rest

/-- The number of nodes under the fields of an object. -/
def sizeFields : List (String × Tree) → Nat
  | [] => 0
  | (_, t) :: rest => size t + sizeFields rest

end

mutual

/-- Every object of a tree, parents first. -/
def objects : Tree → List Fields
  | .list items => objectsItems items
  | .object fields => fields :: objectsFields fields
  | _ => []

/-- Every object of a list of trees, from left to right. -/
def objectsItems : List Tree → List Fields
  | [] => []
  | t :: rest => objects t ++ objectsItems rest

/-- Every object under the fields of an object, in key order. -/
def objectsFields : List (String × Tree) → List Fields
  | [] => []
  | (_, t) :: rest => objects t ++ objectsFields rest

end

@[simp] theorem sizeItems_append (a b : List Tree) :
    sizeItems (a ++ b) = sizeItems a + sizeItems b := by
  induction a with
  | nil => simp [sizeItems]
  | cons t rest ih => simp [sizeItems, ih, Nat.add_assoc]

@[simp] theorem sizeItems_values (fields : Fields) :
    sizeItems fields.values = sizeFields fields := by
  induction fields with
  | nil => simp [Fields.values, sizeItems, sizeFields]
  | cons f rest ih =>
      obtain ⟨key, t⟩ := f
      simp only [Fields.values, List.map_cons, sizeItems, sizeFields] at ih ⊢
      omega

theorem size_pos (t : Tree) : 0 < t.size := by
  cases t <;> simp only [size] <;> omega

end Tree

/-- The objects still to be met from a stack of pending trees, after those
already seen (latest first). -/
def visit (pending : List Tree) (seen : List Fields) : List Fields :=
  match pending with
  | [] => seen.reverse
  | .object fields :: rest => visit (Fields.values fields ++ rest) (fields :: seen)
  | .list items :: rest => visit (items ++ rest) seen
  | _ :: rest => visit rest seen
termination_by Tree.sizeItems pending
decreasing_by
  · simp only [Tree.sizeItems_append, Tree.sizeItems_values, Tree.sizeItems, Tree.size]
    omega
  · simp only [Tree.sizeItems_append, Tree.sizeItems, Tree.size]
    omega
  · simp only [Tree.sizeItems]
    exact Nat.lt_add_of_pos_left (Tree.size_pos _)

/-- Every object of a tree in visiting order. -/
def Tree.walk (t : Tree) : List Fields :=
  visit [t] []

end QueryAdvisor
