import Mathlib.Data.Set.Card
import QueryAdvisor.Proofs.TreeWalk
import QueryAdvisor.Rule.Basic

/-!
# A walk meets every object once, parents first

A walk is a sequence of calls, each of which takes trees off a stack until it has
met an object. `nextObject` is one call and `Yields` is all of them, from any stack:
they come to an end, and what they have met by then are the recursive pre-orders of
the trees on the stack, from the top down.

That this is every object, and each of them once, is a statement about places, since
a tree may hold equal objects in many of them. A place is a path of positions from
the root. The places of the objects met are in lexicographic order, in which a path
comes before all that go on from it, and they are all the places where an object
stands.
-/

namespace QueryAdvisor

open QueryAdvisor.Tree

/-! ## A walk call by call -/

/-- Puts trees on a stack, the last of them first. The top is the first of the list. -/
def pushReversed (stack trees : List Tree) : List Tree :=
  trees.reverse.foldl (fun below t => t :: below) stack

/-- So the first of them comes to lie on top. -/
theorem pushReversed_eq_append (stack trees : List Tree) :
    pushReversed stack trees = trees ++ stack := by
  rw [pushReversed, List.foldl_reverse]
  induction trees with
  | nil => rfl
  | cons t rest ih => rw [List.foldr_cons, ih, List.cons_append]

/-- The next object that a walk meets, if there is one, and the stack it leaves. -/
def nextObject (stack : List Tree) : Option Fields × List Tree :=
  match stack with
  | [] => (none, [])
  | .object fields :: rest => (some fields, pushReversed rest (Fields.values fields))
  | .list items :: rest => nextObject (pushReversed rest items)
  | _ :: rest => nextObject rest
termination_by sizeItems stack
decreasing_by
  · rw [pushReversed_eq_append, sizeItems_append, sizeItems, size]
    omega
  · rw [sizeItems]
    exact Nat.lt_add_of_pos_left (size_pos _)

/-- The objects met by calling again and again, until there is none and the stack is
empty. -/
inductive Yields : (stack : List Tree) → (met : List Fields) → Prop where
  | done {stack : List Tree} (h : nextObject stack = (none, [])) : Yields stack []
  | next {stack rest : List Tree} {fields : Fields} {met : List Fields}
      (h : nextObject stack = (some fields, rest)) (hrest : Yields rest met) :
      Yields stack (fields :: met)

/-- Only the answer of the first call counts. -/
theorem Yields.of_nextObject_eq {stack stack' : List Tree} {met : List Fields}
    (h : nextObject stack = nextObject stack') (hmet : Yields stack' met) : Yields stack met := by
  cases hmet with
  | done hnone => exact .done (h.trans hnone)
  | next hsome hrest => exact .next (h.trans hsome) hrest

theorem Yields.unique {stack : List Tree} {met met' : List Fields} (h : Yields stack met)
    (h' : Yields stack met') : met = met' := by
  induction h generalizing met' with
  | done hnone =>
      cases h' with
      | done _ => rfl
      | next hsome _ =>
          rw [hnone] at hsome
          cases hsome
  | next hsome _ ih =>
      cases h' with
      | done hnone =>
          rw [hnone] at hsome
          cases hsome
      | next hsome' hrest' =>
          rw [hsome] at hsome'
          cases hsome'
          rw [ih hrest']

/-- The calls come to an end, from every stack, and meet what a visit sees. -/
theorem exists_yields (pending : List Tree) (seen : List Fields) :
    ∃ met, visit pending seen = seen.reverse ++ met ∧ Yields pending met := by
  fun_induction visit pending seen with
  | case1 seen => exact ⟨[], (List.append_nil _).symm, .done (by rw [nextObject])⟩
  | case2 seen fields rest ih =>
      obtain ⟨met, hvisit, hmet⟩ := ih
      refine ⟨fields :: met, ?_, .next ?_ hmet⟩
      · rw [hvisit, List.reverse_cons, List.append_assoc, List.singleton_append]
      · rw [nextObject, pushReversed_eq_append]
  | case3 seen items rest ih =>
      obtain ⟨met, hvisit, hmet⟩ := ih
      refine ⟨met, hvisit, hmet.of_nextObject_eq ?_⟩
      rw [nextObject, pushReversed_eq_append]
  | case4 seen t rest hobject hlist ih =>
      obtain ⟨met, hvisit, hmet⟩ := ih
      refine ⟨met, hvisit, hmet.of_nextObject_eq ?_⟩
      rw [nextObject]
      · exact hobject
      · exact hlist

theorem objectsItems_eq_flatMap (items : List Tree) :
    objectsItems items = items.flatMap objects := by
  induction items with
  | nil => rw [objectsItems, List.flatMap_nil]
  | cons t rest ih => rw [objectsItems, ih, List.flatMap_cons]

theorem visit_eq_flatMap (stack : List Tree) : visit stack [] = stack.flatMap objects := by
  rw [visit_eq_append, List.reverse_nil, List.nil_append, objectsItems_eq_flatMap]

theorem yields_iff (stack : List Tree) (met : List Fields) :
    Yields stack met ↔ met = stack.flatMap objects := by
  obtain ⟨all, hvisit, hall⟩ := exists_yields stack []
  rw [visit_eq_flatMap, List.reverse_nil, List.nil_append] at hvisit
  rw [hvisit]
  constructor
  · intro h
    exact h.unique hall
  · rintro rfl
    exact hall

/-! ## Places -/

namespace Tree

/-- What stands directly below a tree: the values of an object, the items of a list. -/
def children : Tree → List Tree
  | .list items => items
  | .object fields => Fields.values fields
  | _ => []

theorem size_eq (t : Tree) : t.size = 1 + sizeItems t.children := by
  cases t with
  | list items => rw [size, children]
  | object fields => rw [size, children, sizeItems_values]
  | null | bool _ | number _ | text _ => simp only [size, children, sizeItems]

theorem size_le_of_mem {t : Tree} {items : List Tree} (h : t ∈ items) :
    t.size ≤ sizeItems items := by
  induction h with
  | head rest =>
      rw [sizeItems]
      omega
  | tail u _ ih =>
      rw [sizeItems]
      omega

theorem size_lt_of_mem_children {t u : Tree} (h : u ∈ t.children) : u.size < t.size := by
  have := size_le_of_mem h
  rw [size_eq t]
  omega

/-- What holds of a tree when it holds of all directly below it holds of every tree. -/
@[elab_as_elim]
theorem induction_children {motive : Tree → Prop} (t : Tree)
    (step : ∀ t : Tree, (∀ u ∈ t.children, motive u) → motive t) : motive t :=
  step t fun u _ => induction_children u step
termination_by t.size
decreasing_by exact size_lt_of_mem_children ‹_›

/-- An object comes before what stands below it. -/
theorem objects_eq (t : Tree) : t.objects = t.asObject?.toList ++ t.children.flatMap objects := by
  rw [← objectsItems_eq_flatMap]
  cases t with
  | list items => rw [objects, children]; rfl
  | object fields => rw [objects, children, objectsItems_values]; rfl
  | null | bool _ | number _ | text _ => simp only [objects, children, objectsItems]; rfl

/-- The tree at the end of a path of positions. -/
def subtree? : Tree → List Nat → Option Tree
  | t, [] => some t
  | t, i :: path => t.children[i]?.bind (subtree? · path)

/-- A place, seen from one level above it. -/
def fromAbove (i : Nat) (p : List Nat × Fields) : List Nat × Fields :=
  (i :: p.1, p.2)

/-- The objects of a tree with their places, parents first. -/
def places (t : Tree) : List (List Nat × Fields) :=
  t.asObject?.toList.map ([], ·) ++
    t.children.zipIdx.attach.flatMap fun p => (places p.1.1).map (fromAbove p.1.2)
termination_by t.size
decreasing_by exact size_lt_of_mem_children (List.fst_mem_of_mem_zipIdx p.2)

theorem places_eq (t : Tree) :
    t.places = t.asObject?.toList.map ([], ·) ++
      t.children.zipIdx.flatMap fun p => p.1.places.map (fromAbove p.2) := by
  conv_rhs => rw [← List.attach_map_subtype_val t.children.zipIdx, List.flatMap_map]
  rw [places]

theorem map_snd_places (t : Tree) : t.places.map Prod.snd = t.objects := by
  induction t using induction_children with
  | step t ih =>
      have hbelow : ∀ p ∈ t.children.zipIdx,
          (p.1.places.map (fromAbove p.2)).map Prod.snd = p.1.objects := by
        intro p hp
        rw [List.map_map]
        exact ih p.1 (List.fst_mem_of_mem_zipIdx hp)
      have hroot : (t.asObject?.toList.map fun fields => (([] : List Nat), fields)).map Prod.snd
          = t.asObject?.toList := by
        rw [List.map_map]
        exact List.map_id _
      rw [places_eq, objects_eq, List.map_append, hroot, List.map_flatMap,
        List.flatMap_congr hbelow]
      conv_rhs => rw [← List.zipIdx_map_fst 0 t.children, List.flatMap_map]

theorem mem_places_iff (t : Tree) (path : List Nat) (fields : Fields) :
    (path, fields) ∈ t.places ↔ t.subtree? path = some (.object fields) := by
  induction path generalizing t with
  | nil =>
      rw [places_eq, subtree?]
      cases t <;> simp [asObject?, fromAbove, eq_comm]
  | cons i path ih =>
      rw [places_eq, subtree?, Option.bind_eq_some_iff]
      simp [fromAbove, ih, List.mem_zipIdx_iff_getElem?]

/-- Places are met in lexicographic order. -/
theorem pairwise_places (t : Tree) :
    t.places.Pairwise fun p q => List.Lex (· < ·) p.1 q.1 := by
  induction t using induction_children with
  | step t ih =>
      have hpositions : t.children.zipIdx.Pairwise fun p q => p.2 < q.2 := by
        refine List.pairwise_map.mp ?_
        rw [List.zipIdx_map_snd]
        exact List.pairwise_lt_range'
      rw [places_eq, List.pairwise_append, List.pairwise_flatMap]
      refine ⟨?_, ⟨?_, ?_⟩, ?_⟩
      · cases t.asObject? with
        | none => exact .nil
        | some fields => exact List.pairwise_singleton _ _
      · intro p hp
        rw [List.pairwise_map]
        exact (ih p.1 (List.fst_mem_of_mem_zipIdx hp)).imp .cons
      · refine hpositions.imp ?_
        intro p q hlt
        simp only [List.forall_mem_map]
        exact fun _ _ _ _ => .rel hlt
      · -- the root is above all others
        simp only [List.forall_mem_map, List.forall_mem_flatMap]
        exact fun _ _ _ _ _ _ => .nil

end Tree

/-- What comes later in lexicographic order is nowhere above. -/
theorem not_prefix_of_lex {p q : List Nat} (h : List.Lex (· < ·) p q) : ¬ q <+: p := by
  induction h with
  | nil => simp
  | rel hlt =>
      rw [List.cons_prefix_cons]
      rintro ⟨rfl, -⟩
      exact absurd hlt (Nat.lt_irrefl _)
  | cons _ ih =>
      rw [List.cons_prefix_cons]
      exact fun h => ih h.2

/-! ## The objects of a walk -/

/-- The places of the objects that a walk meets, in its order. -/
structure MeetsAt (t : Tree) (paths : List (List Nat)) : Prop where
  met : paths.map t.subtree? = t.walk.map fun fields => some (.object fields)
  complete : ∀ path, path ∈ paths ↔ ∃ fields, t.subtree? path = some (.object fields)
  once : paths.Nodup
  parentsFirst : paths.Pairwise fun p q => ¬ q <+: p
  inOrder : paths.Pairwise (List.Lex (· < ·))

theorem meetsAt_places (t : Tree) : MeetsAt t (t.places.map Prod.fst) := by
  have hinOrder : (t.places.map Prod.fst).Pairwise (List.Lex (· < ·)) :=
    List.pairwise_map.mpr t.pairwise_places
  have hparents : (t.places.map Prod.fst).Pairwise fun p q => ¬ q <+: p :=
    hinOrder.imp not_prefix_of_lex
  refine ⟨?_, ?_, hparents.imp ?_, hparents, hinOrder⟩
  · rw [walk_eq_objects, ← map_snd_places, List.map_map, List.map_map]
    exact List.map_congr_left fun p hp => (t.mem_places_iff p.1 p.2).mp hp
  · intro path
    simp [mem_places_iff]
  · rintro p q hne rfl
    exact hne (List.prefix_refl p)

theorem MeetsAt.length_walk {t : Tree} {paths : List (List Nat)} (h : MeetsAt t paths) :
    t.walk.length = { path | ∃ fields, t.subtree? path = some (.object fields) }.ncard := by
  have hset : { path | ∃ fields, t.subtree? path = some (.object fields) }
      = (paths.toFinset : Set (List Nat)) := by
    ext path
    simp [h.complete]
  have hlength := congrArg List.length h.met
  rw [List.length_map, List.length_map] at hlength
  rw [hset, Set.ncard_coe_finset, List.toFinset_card_of_nodup h.once, hlength]

/-- The comparison that stands at a place. -/
def comparisonAt? (t : Tree) (path : List Nat) : Option ParseTree.Comparison :=
  (t.subtree? path).bind fun u => u.asObject?.bind ParseTree.Comparison.ofFields?

/-- The rules look at the comparisons at these places, in the same order. -/
theorem MeetsAt.comparisons_eq {t : Tree} {paths : List (List Nat)} (h : MeetsAt t paths)
    (input : RuleInput) :
    { input with ast := some t }.comparisons = paths.filterMap (comparisonAt? t) := by
  have hread : comparisonAt? t
      = (fun u : Option Tree => u.bind fun u => u.asObject?.bind ParseTree.Comparison.ofFields?)
        ∘ t.subtree? := rfl
  rw [RuleInput.comparisons, RuleInput.astObjects, Option.toList_some, List.flatMap_singleton,
    hread, ← List.filterMap_map, h.met, List.filterMap_map]
  rfl

/-- The calls of a walk come to an end from every stack, and what they meet by then are
the recursive pre-orders of the trees on the stack, from the top down. A walk of a tree
therefore meets all places where an object stands and each of them once, an object
before all that are below it, as many as there are. The comparisons that the rules look
at are those at these places, wherever they are nested. -/
theorem walk_meets_every_object :
    (∀ stack met, Yields stack met ↔ met = stack.flatMap objects) ∧
      (∀ stack, visit stack [] = stack.flatMap objects) ∧
      ∀ t : Tree, Yields [t] t.walk ∧ t.walk = t.objects ∧
        t.walk.length = { path | ∃ fields, t.subtree? path = some (.object fields) }.ncard ∧
        ∃ paths, MeetsAt t paths ∧ ∀ input : RuleInput,
          { input with ast := some t }.comparisons = paths.filterMap (comparisonAt? t) := by
  refine ⟨yields_iff, visit_eq_flatMap, fun t => ?_⟩
  have hmeets := meetsAt_places t
  have hwalk : Yields [t] t.walk := (yields_iff _ _).mpr (visit_eq_flatMap [t])
  exact ⟨hwalk, walk_eq_objects t, hmeets.length_walk, _, hmeets, hmeets.comparisons_eq⟩

end QueryAdvisor
