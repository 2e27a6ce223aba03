import QueryAdvisor.Tree.Walk

/-!
# The stack walk is the recursive pre-order

`visit` keeps what it has still to look at on a stack, and theorems about
trees want the recursion of `Tree.objects`. The two meet in one statement
about a stack of any height: what a visit returns is what it had already seen,
followed by the pre-orders of the pending trees from the top of the stack
down. A step of the visit replaces the tree on top by its parts, and the
pre-order of a tree is that of its parts, so every case is one rewriting.
-/

namespace QueryAdvisor

namespace Tree

theorem objectsItems_append (a b : List Tree) :
    objectsItems (a ++ b) = objectsItems a ++ objectsItems b := by
  induction a with
  | nil => rw [List.nil_append, objectsItems, List.nil_append]
  | cons t rest ih =>
      rw [List.cons_append, objectsItems, objectsItems, ih, List.append_assoc]

/-- The keys of an object play no part in what lies under it. -/
theorem objectsItems_values (fields : Fields) :
    objectsItems fields.values = objectsFields fields := by
  induction fields with
  | nil => rw [Fields.values, List.map_nil, objectsItems, objectsFields]
  | cons f rest ih =>
      obtain ⟨key, t⟩ := f
      rw [Fields.values, List.map_cons, objectsItems, objectsFields, ← ih, Fields.values]

end Tree

/-- What a visit returns, from any stack and after any objects seen. -/
theorem visit_eq_append (pending : List Tree) (seen : List Fields) :
    visit pending seen = seen.reverse ++ Tree.objectsItems pending := by
  fun_induction visit pending seen with
  | case1 seen => rw [Tree.objectsItems, List.append_nil]
  | case2 seen fields rest ih =>
      rw [ih, List.reverse_cons, Tree.objectsItems_append, Tree.objectsItems_values,
        Tree.objectsItems, Tree.objects]
      simp only [List.append_assoc, List.cons_append, List.nil_append]
  | case3 seen items rest ih =>
      rw [ih, Tree.objectsItems_append, Tree.objectsItems, Tree.objects]
  | case4 seen t rest hobject hlist ih =>
      -- a scalar has no objects, whichever of the four it is
      have hnone : t.objects = [] := by
        cases t with
        | object fields => exact absurd rfl (hobject fields)
        | list items => exact absurd rfl (hlist items)
        | null | bool _ | number _ | text _ => simp only [Tree.objects]
      rw [ih, Tree.objectsItems, hnone, List.nil_append]

/-- A walk meets the objects of a tree in pre-order. -/
theorem Tree.walk_eq_objects (t : Tree) : t.walk = t.objects := by
  rw [Tree.walk, visit_eq_append, Tree.objectsItems, Tree.objectsItems, List.reverse_nil,
    List.nil_append, List.append_nil]

end QueryAdvisor
