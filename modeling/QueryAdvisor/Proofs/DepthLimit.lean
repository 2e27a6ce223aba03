import Mathlib.Data.List.Forall2
import Mathlib.Data.List.Nodup
import QueryAdvisor.Report.TreeOutline

/-!
# How deep and in which order a tree is shown

The outline of a tree is limited in depth and ordered by keys. Three things are
shown about it. With fewer levels it is the outline with more levels, cut. With as
many levels as the tree has, nothing is missing: `Shows` says, node by node, what
a complete outline is, and the outline is one exactly when the levels suffice. And
the order in which the fields of an object were written plays no part, at any depth.

All of it rests on one equation, `treeOutline_succ`: below a node stand the outlines
of its parts, which are the fields of an object in key order and the items of a list
under their indices. The limit is stated as a number of levels; `outlineWithin?`
counts it down in another way, by a budget that is absent when it is used up.
-/

namespace QueryAdvisor

/-! ## The parts of a tree -/

/-- Fields in the order of their keys. -/
def inKeyOrder (fields : Fields) : Fields :=
  fields.mergeSort fun a b => decide (a.1 ≤ b.1)

theorem inKeyOrder_perm (fields : Fields) : (inKeyOrder fields).Perm fields :=
  List.mergeSort_perm fields _

namespace Tree

/-- What is shown of a tree that has no parts. -/
def scalarText? : Tree → Option String
  | .null => some (toJson .null)
  | .bool b => some (toJson (.bool b))
  | .number n => some (toJson (.number n))
  | .text s => some (Text.quoted s)
  | .list _ | .object _ => none

/-- The label of the node that shows a tree. -/
def shownLabel (label : String) (t : Tree) : String :=
  t.scalarText?.elim label fun shown => label ++ ": " ++ shown

/-- What stands directly below a tree, and under which label. -/
def parts : Tree → List (String × Tree)
  | .list items => items.zipIdx.map fun p => ("[" ++ toString p.2 ++ "]", p.1)
  | .object fields => inKeyOrder fields
  | _ => []

theorem map_snd_parts_list (items : List Tree) : (parts (.list items)).map Prod.snd = items := by
  rw [parts, List.map_map]
  exact List.zipIdx_map_fst 0 items

theorem forall_parts_list {items : List Tree} {P : Tree → Prop} :
    (∀ p ∈ parts (.list items), P p.2) ↔ ∀ t ∈ items, P t := by
  conv => rhs; rw [← map_snd_parts_list items]
  exact List.forall_mem_map.symm

theorem forall_parts_object {fields : Fields} {P : String × Tree → Prop} :
    (∀ p ∈ parts (.object fields), P p) ↔ ∀ f ∈ fields, P f := by
  rw [parts]
  exact forall_congr' fun f => by rw [(inKeyOrder_perm fields).mem_iff]

theorem sizeOf_lt_of_mem_parts (t : Tree) : ∀ p ∈ t.parts, sizeOf p.2 < sizeOf t := by
  cases t with
  | list items =>
      rw [forall_parts_list (P := fun t => sizeOf t < sizeOf (Tree.list items))]
      intro t ht
      have := List.sizeOf_lt_of_mem ht
      simp only [list.sizeOf_spec]
      omega
  | object fields =>
      rw [forall_parts_object (P := fun f => sizeOf f.2 < sizeOf (Tree.object fields))]
      rintro ⟨key, t⟩ hf
      have := List.sizeOf_lt_of_mem hf
      simp only [object.sizeOf_spec, Prod.mk.sizeOf_spec] at this ⊢
      omega
  | null | bool _ | number _ | text _ => exact List.forall_mem_nil _

/-- What holds of a tree when it holds of its parts holds of every tree. -/
@[elab_as_elim]
theorem induction_parts {motive : Tree → Prop} (t : Tree)
    (step : ∀ t : Tree, (∀ p ∈ t.parts, motive p.2) → motive t) : motive t :=
  step t fun p _ => induction_parts p.2 step
termination_by sizeOf t
decreasing_by exact sizeOf_lt_of_mem_parts t p ‹_›

end Tree

open QueryAdvisor.Tree

/-! ## The nodes of an outline -/

theorem fieldOutlines_eq_map (depth : Nat) (fields : Fields) :
    fieldOutlines depth fields = fields.map fun f => (f.1, treeOutline f.1 depth f.2) := by
  induction fields with
  | nil => rw [fieldOutlines, List.map_nil]
  | cons f rest ih =>
      obtain ⟨key, t⟩ := f
      rw [fieldOutlines, ih, List.map_cons]

/-- The label of an item is its index in decimal, between brackets. -/
theorem indexLabel_eq (index : Nat) : indexLabel index = "[" ++ toString index ++ "]" := rfl

theorem itemOutlines_eq_map (depth index : Nat) (items : List Tree) :
    itemOutlines depth index items
      = (items.zipIdx index).map fun p => treeOutline ("[" ++ toString p.2 ++ "]") depth p.1 := by
  induction items generalizing index with
  | nil => rw [itemOutlines, List.zipIdx_nil, List.map_nil]
  | cons t rest ih => rw [itemOutlines, ih, List.zipIdx_cons, List.map_cons, indexLabel_eq]

theorem sortedByKey_fieldOutlines (depth : Nat) (fields : Fields) :
    (sortedByKey (fieldOutlines depth fields)).map Prod.snd
      = (inKeyOrder fields).map fun f => treeOutline f.1 depth f.2 := by
  have hsorted : (inKeyOrder fields).map (fun f => (f.1, treeOutline f.1 depth f.2))
      = sortedByKey (fieldOutlines depth fields) := by
    rw [sortedByKey, fieldOutlines_eq_map]
    refine List.map_mergeSort ?_
    intro a _ b _
    rfl
  rw [← hsorted, List.map_map]
  rfl

theorem treeOutline_zero (label : String) (t : Tree) :
    treeOutline label 0 t = .leaf (t.shownLabel label) := by
  cases t <;> rw [treeOutline] <;> rfl

theorem treeOutline_succ (label : String) (depth : Nat) (t : Tree) :
    treeOutline label (depth + 1) t
      = .node (t.shownLabel label) (t.parts.map fun p => treeOutline p.1 depth p.2) := by
  cases t with
  | list items =>
      rw [treeOutline, itemOutlines_eq_map, parts, List.map_map]
      rfl
  | object fields =>
      rw [treeOutline, sortedByKey_fieldOutlines]
      rfl
  | null | bool _ | number _ | text _ =>
      rw [treeOutline]
      rfl

theorem label_treeOutline (label : String) (depth : Nat) (t : Tree) :
    (treeOutline label depth t).label = t.shownLabel label := by
  cases depth with
  | zero => rw [treeOutline_zero, Outline.leaf, Outline.label]
  | succ depth => rw [treeOutline_succ, Outline.label]

/-! ## Counting down a budget -/

/-- The levels that are left below a node, if any are. -/
def levelBelow : Nat → Option Nat
  | 0 => none
  | depth + 1 => some depth

/-- The outline of a tree with a budget of levels, if there is a budget. -/
def outlineWithin? (label : String) (budget : Option Nat) (t : Tree) : Option Outline :=
  budget.map fun depth =>
    .node (t.shownLabel label) (t.parts.attach.filterMap fun p =>
      outlineWithin? p.1.1 (levelBelow depth) p.1.2)
termination_by sizeOf t
decreasing_by exact sizeOf_lt_of_mem_parts t p.1 p.2

/-- An outline is never absent, and both ways of counting levels agree. -/
theorem outlineWithin?_some (label : String) (depth : Nat) (t : Tree) :
    outlineWithin? label (some depth) t = some (treeOutline label depth t) := by
  induction t using induction_parts generalizing label depth with
  | step t ih =>
      rw [outlineWithin?, Option.map_some]
      cases depth with
      | zero =>
          have hnone : ∀ p : { p // p ∈ t.parts }, outlineWithin? p.1.1 none p.1.2 = none := by
            intro p
            rw [outlineWithin?, Option.map_none]
          simp only [levelBelow, hnone]
          rw [List.filterMap_none, treeOutline_zero, Outline.leaf]
      | succ depth =>
          have hsome : ∀ p : { p // p ∈ t.parts }, outlineWithin? p.1.1 (some depth) p.1.2
              = some (treeOutline p.1.1 depth p.1.2) :=
            fun p => ih p.1 p.2 p.1.1 depth
          have hparts := @List.attach_map_val _ _ t.parts fun p => treeOutline p.1 depth p.2
          simp only [levelBelow, hsome]
          rw [List.filterMap_eq_map', hparts, treeOutline_succ]

/-! ## Cutting an outline -/

namespace Outline

/-- An outline without what is more than some levels below its root. -/
def cut : Nat → Outline → Outline
  | 0, o => .leaf o.label
  | depth + 1, o => .node o.label (o.children.map (cut depth))

/-- The label of the node at the end of a path of child positions. -/
def labelAt? : Outline → List Nat → Option String
  | o, [] => some o.label
  | o, i :: path => o.children[i]?.bind (labelAt? · path)

theorem label_cut (depth : Nat) (o : Outline) : (o.cut depth).label = o.label := by
  cases depth with
  | zero => rfl
  | succ depth => rfl

/-- Exactly the nodes at the ends of longer paths are cut off. -/
theorem labelAt?_cut (depth : Nat) (o : Outline) (path : List Nat) :
    (o.cut depth).labelAt? path = if path.length ≤ depth then o.labelAt? path else none := by
  induction path generalizing depth o with
  | nil =>
      rw [labelAt?, label_cut, labelAt?]
      exact (if_pos (Nat.zero_le depth)).symm
  | cons i path ih =>
      cases depth with
      | zero =>
          rw [cut, leaf, labelAt?, children, List.getElem?_nil, Option.bind_none]
          exact (if_neg (Nat.not_succ_le_zero _)).symm
      | succ depth =>
          rw [cut, labelAt?, labelAt?, children, List.getElem?_map, List.length_cons]
          cases o.children[i]? with
          | none => simp only [Option.map_none, Option.bind_none, ite_self]
          | some child =>
              simp only [Option.map_some, Option.bind_some, ih, Nat.add_le_add_iff_right]

end Outline

theorem treeOutline_eq_cut (label : String) (t : Tree) {d depth : Nat} (h : d ≤ depth) :
    treeOutline label d t = (treeOutline label depth t).cut d := by
  induction t using induction_parts generalizing label d depth with
  | step t ih =>
      cases d with
      | zero => rw [treeOutline_zero, Outline.cut, label_treeOutline]
      | succ d =>
          obtain ⟨depth, rfl⟩ := Nat.exists_eq_succ_of_ne_zero (Nat.ne_zero_of_lt h)
          rw [treeOutline_succ, treeOutline_succ, Outline.cut, Outline.label, Outline.children,
            List.map_map]
          exact congrArg (Outline.node _) (List.map_congr_left fun p hp =>
            ih p hp p.1 (Nat.le_of_succ_le_succ h))

/-! ## Complete outlines -/

/-- A complete outline of a tree under a label: a scalar is shown behind its label,
and below an object or a list there is a node for each of its parts, under the keys
in increasing order or under the indices from zero on, in decimal between brackets. -/
inductive Shows : (label : String) → Tree → Outline → Prop where
  | scalar {label shown : String} {t : Tree} (h : t.scalarText? = some shown) :
      Shows label t (.leaf (label ++ ": " ++ shown))
  | list {label : String} {items : List Tree} {children : List Outline}
      (h : List.Forall₂ (fun p o => Shows ("[" ++ toString p.2 ++ "]") p.1 o) items.zipIdx
        children) :
      Shows label (.list items) (.node label children)
  | object {label : String} {fields ordered : Fields} {children : List Outline}
      (hperm : ordered.Perm fields) (hkeys : ordered.keys.Pairwise (· < ·))
      (h : List.Forall₂ (fun f o => Shows f.1 f.2 o) ordered children) :
      Shows label (.object fields) (.node label children)

namespace Tree

mutual

/-- How many levels of values a tree has below its root. -/
def reach : Tree → Nat
  | .list items => reachItems items
  | .object fields => reachFields fields
  | _ => 0

def reachItems : List Tree → Nat
  | [] => 0
  | t :: rest => max (reach t + 1) (reachItems rest)

def reachFields : List (String × Tree) → Nat
  | [] => 0
  | (_, t) :: rest => max (reach t + 1) (reachFields rest)

end

/-- No object of a tree has a key twice. -/
inductive DistinctKeys : Tree → Prop where
  | scalar {t : Tree} {shown : String} (h : t.scalarText? = some shown) : DistinctKeys t
  | list {items : List Tree} (h : ∀ t ∈ items, DistinctKeys t) : DistinctKeys (.list items)
  | object {fields : Fields} (hkeys : fields.keys.Nodup) (h : ∀ f ∈ fields, DistinctKeys f.2) :
      DistinctKeys (.object fields)

theorem reach_le_iff (t : Tree) (depth : Nat) :
    t.reach ≤ depth ↔ ∀ p ∈ t.parts, p.2.reach + 1 ≤ depth := by
  cases t with
  | list items =>
      rw [forall_parts_list (P := fun t => t.reach + 1 ≤ depth), reach]
      induction items with
      | nil => simp [reachItems]
      | cons t rest ih => rw [reachItems, Nat.max_le, ih, List.forall_mem_cons]
  | object fields =>
      rw [forall_parts_object (P := fun f => f.2.reach + 1 ≤ depth), reach]
      induction fields with
      | nil => simp [reachFields]
      | cons f rest ih =>
          obtain ⟨key, t⟩ := f
          rw [reachFields, Nat.max_le, ih, List.forall_mem_cons]
  | null | bool _ | number _ | text _ => simp [reach, parts]

theorem DistinctKeys.of_mem_parts {t : Tree} (h : t.DistinctKeys) :
    ∀ p ∈ t.parts, p.2.DistinctKeys := by
  cases h with
  | scalar h =>
      cases t with
      | list _ | object _ => cases h
      | null | bool _ | number _ | text _ => exact List.forall_mem_nil _
  | list h => exact forall_parts_list.mpr h
  | object _ h => exact forall_parts_object.mpr h

end Tree

/-! ### Key order -/

theorem pairwise_mergeSort_key {α : Type} (entries : List (String × α)) :
    (entries.mergeSort fun a b => decide (a.1 ≤ b.1)).Pairwise fun a b => a.1 ≤ b.1 := by
  refine (List.pairwise_mergeSort ?_ ?_ entries).imp of_decide_eq_true
  · intro a b c hab hbc
    exact decide_eq_true (String.le_trans (of_decide_eq_true hab) (of_decide_eq_true hbc))
  · intro a b
    rw [Bool.or_eq_true, decide_eq_true_iff, decide_eq_true_iff]
    exact String.le_total a.1 b.1

/-- Different keys in order are in strict order. -/
theorem keys_inKeyOrder_pairwise_lt {fields : Fields} (h : fields.keys.Nodup) :
    (inKeyOrder fields).keys.Pairwise (· < ·) := by
  have hne : (inKeyOrder fields).keys.Nodup :=
    ((inKeyOrder_perm fields).map Prod.fst).nodup_iff.mpr h
  rw [Fields.keys, List.Nodup, List.pairwise_map] at hne
  rw [Fields.keys, List.pairwise_map]
  refine ((pairwise_mergeSort_key fields).and hne).imp ?_
  rintro a b ⟨hle, hdiffer⟩
  by_contra hlt
  exact hdiffer (String.le_antisymm hle (String.not_lt.mp hlt))

theorem eq_of_perm_of_keys_pairwise_lt {a b : Fields} (hperm : a.Perm b)
    (ha : a.keys.Pairwise (· < ·)) (hb : b.keys.Pairwise (· < ·)) : a = b := by
  rw [Fields.keys, List.pairwise_map] at ha hb
  refine hperm.eq_of_pairwise ?_ ha hb
  intro x y _ _ hxy hyx
  exact absurd hyx (String.lt_asymm hxy)

/-- Entries that differ in order only are in one order when they are sorted. -/
theorem sortedByKey_eq_of_perm {a b : List (String × Outline)} (hperm : a.Perm b)
    (hkeys : (a.map Prod.fst).Nodup) : sortedByKey a = sortedByKey b := by
  have hsorted : (sortedByKey a).Perm (sortedByKey b) :=
    (List.mergeSort_perm a _).trans (hperm.trans (List.mergeSort_perm b _).symm)
  refine hsorted.eq_of_pairwise ?_ (pairwise_mergeSort_key a) (pairwise_mergeSort_key b)
  intro x y hx hy hxy hyx
  have hxa : x ∈ a := (List.mergeSort_perm a _).mem_iff.mp hx
  have hya : y ∈ a := hperm.mem_iff.mpr ((List.mergeSort_perm b _).mem_iff.mp hy)
  exact List.inj_on_of_nodup_map hkeys hxa hya
    (String.le_antisymm hxy hyx)

/-! ### Nothing is missing -/

theorem parts_of_scalarText? {t : Tree} {shown : String} (h : t.scalarText? = some shown) :
    t.parts = [] := by
  cases t with
  | list _ | object _ => cases h
  | null | bool _ | number _ | text _ => rfl

/-- A complete outline has a node for each part of its tree, and these are complete. -/
theorem shows_iff_parts {t : Tree} (h : t.DistinctKeys) (label : String) (o : Outline) :
    Shows label t o
      ↔ o.label = t.shownLabel label ∧
        List.Forall₂ (fun p o => Shows p.1 p.2 o) t.parts o.children := by
  obtain ⟨root, children⟩ := o
  rw [Outline.label, Outline.children]
  constructor
  · intro hshows
    cases hshows with
    | scalar hshown =>
        rw [parts_of_scalarText? hshown, shownLabel, hshown]
        exact ⟨rfl, .nil⟩
    | list hitems => exact ⟨rfl, List.forall₂_map_left_iff.mpr hitems⟩
    | object hperm hkeys hfields =>
        cases h with
        | scalar hshown => cases hshown
        | object hnodup _ =>
            -- keys can be in strict order in one way only
            have hordered := eq_of_perm_of_keys_pairwise_lt
              (hperm.trans (inKeyOrder_perm _).symm) hkeys (keys_inKeyOrder_pairwise_lt hnodup)
            rw [hordered] at hfields
            exact ⟨rfl, hfields⟩
  · rintro ⟨rfl, hparts⟩
    cases h with
    | scalar hshown =>
        rw [parts_of_scalarText? hshown, List.forall₂_nil_left_iff] at hparts
        rw [hparts, shownLabel, hshown]
        exact .scalar hshown
    | list _ => exact .list (List.forall₂_map_left_iff.mp hparts)
    | object hnodup _ =>
        exact .object (inKeyOrder_perm _) (keys_inKeyOrder_pairwise_lt hnodup) hparts

theorem shows_treeOutline_iff {t : Tree} (h : t.DistinctKeys) (label : String) (depth : Nat) :
    Shows label t (treeOutline label depth t) ↔ t.reach ≤ depth := by
  induction t using induction_parts generalizing label depth with
  | step t ih =>
      rw [shows_iff_parts h, label_treeOutline, reach_le_iff]
      cases depth with
      | zero =>
          rw [treeOutline_zero, Outline.leaf, Outline.children, List.forall₂_nil_right_iff,
            List.eq_nil_iff_forall_not_mem]
          simp
      | succ depth =>
          rw [treeOutline_succ, Outline.children, List.forall₂_map_right_iff, List.forall₂_same]
          simp only [true_and, Nat.add_le_add_iff_right]
          exact forall₂_congr fun p hp => ih p hp (h.of_mem_parts p hp) p.1 depth

/-! ## The order of fields -/

/-- Trees that differ in the order of fields only, in any of their objects. -/
inductive Reordered : Tree → Tree → Prop where
  | same (t : Tree) : Reordered t t
  | list {items items' : List Tree} (h : List.Forall₂ Reordered items items') :
      Reordered (.list items) (.list items')
  | object {fields between fields' : Fields} (hkeys : between.keys = fields.keys)
      (h : List.Forall₂ (fun f f' => Reordered f.2 f'.2) fields between)
      (hperm : between.Perm fields') : Reordered (.object fields) (.object fields')

section Congruence

variable {depth : Nat}

/-- Reordering a tree does not change its outline. -/
def KeepsOutline (depth : Nat) (t : Tree) : Prop :=
  ∀ t', Reordered t t' → ∀ label, treeOutline label depth t' = treeOutline label depth t

theorem itemOutlines_of_reordered {items items' : List Tree}
    (hitems : ∀ t ∈ items, KeepsOutline depth t) (h : List.Forall₂ Reordered items items')
    (index : Nat) : itemOutlines depth index items' = itemOutlines depth index items := by
  induction h generalizing index with
  | nil => rfl
  | cons ht _ ih =>
      obtain ⟨hfirst, hrest⟩ := List.forall_mem_cons.mp hitems
      rw [itemOutlines, itemOutlines, hfirst _ ht, ih hrest]

theorem fieldOutlines_of_reordered {fields fields' : Fields}
    (hfields : ∀ f ∈ fields, KeepsOutline depth f.2) (hkeys : fields'.keys = fields.keys)
    (h : List.Forall₂ (fun f f' => Reordered f.2 f'.2) fields fields') :
    fieldOutlines depth fields' = fieldOutlines depth fields := by
  induction h with
  | nil => rfl
  | cons hf _ ih =>
      obtain ⟨hfirst, hrest⟩ := List.forall_mem_cons.mp hfields
      obtain ⟨hkey, hkeys⟩ := List.cons.inj hkeys
      rw [fieldOutlines, fieldOutlines, ih hrest hkeys, hkey, hfirst _ hf]

/-- The order of the fields of one object. -/
theorem sortedByKey_fieldOutlines_of_perm {fields fields' : Fields} (hperm : fields.Perm fields')
    (hkeys : fields.keys.Nodup) :
    sortedByKey (fieldOutlines depth fields) = sortedByKey (fieldOutlines depth fields') := by
  rw [fieldOutlines_eq_map, fieldOutlines_eq_map]
  refine sortedByKey_eq_of_perm (hperm.map _) ?_
  rw [List.map_map]
  exact hkeys

end Congruence

theorem keepsOutline_of_distinctKeys {t : Tree} (hkeys : t.DistinctKeys) (depth : Nat) :
    KeepsOutline depth t := by
  induction t using induction_parts generalizing depth with
  | step t ih =>
      intro t' h label
      cases depth with
      | zero =>
          have hlabel : t'.shownLabel label = t.shownLabel label := by cases h <;> rfl
          rw [treeOutline_zero, treeOutline_zero, hlabel]
      | succ depth =>
          have hparts : ∀ p ∈ t.parts, KeepsOutline depth p.2 :=
            fun p hp => ih p hp (hkeys.of_mem_parts p hp) depth
          cases h with
          | same => rfl
          | list h =>
              rw [treeOutline, treeOutline,
                itemOutlines_of_reordered (forall_parts_list.mp hparts) h]
          | object hsame h hperm =>
              cases hkeys with
              | scalar hshown => cases hshown
              | object hnodup _ =>
                  -- first the order of the fields, then what is reordered inside of each
                  rw [treeOutline, treeOutline,
                    ← sortedByKey_fieldOutlines_of_perm hperm (hsame ▸ hnodup),
                    fieldOutlines_of_reordered (forall_parts_object.mp hparts) hsame h]

/-- A tree has an outline for every number of levels, however the levels are counted
down, and with fewer levels it is the outline with more, cut: exactly the nodes that
are too deep are missing. With as many levels as a tree reaches down, and only then,
the outline is complete, with indices and keys in order; and the order in which the
fields of its objects are written does not show. The last two need that no object has
a key twice. -/
theorem treeOutline_cut_complete_ordered (label : String) (t : Tree) :
    (∀ d, outlineWithin? label (some d) t = some (treeOutline label d t)) ∧
      (∀ d depth, d ≤ depth →
        treeOutline label d t = (treeOutline label depth t).cut d ∧
          ∀ path, (treeOutline label d t).labelAt? path
            = if path.length ≤ d then (treeOutline label depth t).labelAt? path else none) ∧
      (t.DistinctKeys →
        (∀ depth, Shows label t (treeOutline label depth t) ↔ t.reach ≤ depth) ∧
          ∀ t' depth, Reordered t t' →
            treeOutline label depth t' = treeOutline label depth t) := by
  refine ⟨fun d => outlineWithin?_some label d t, ?_, ?_⟩
  · intro d depth h
    have hcut := treeOutline_eq_cut label t h
    refine ⟨hcut, fun path => ?_⟩
    rw [hcut, Outline.labelAt?_cut]
  · intro hkeys
    refine ⟨shows_treeOutline_iff hkeys label, fun t' depth h => ?_⟩
    exact keepsOutline_of_distinctKeys hkeys depth t' h label

/-- A tree of two levels with its keys out of order: two levels show all of it, one
does not, and the order of the keys does not show at any depth. -/
theorem treeOutline_of_two_levels :
    let t : Tree := .object [("b", .list [.null]), ("a", .object [])]
    t.DistinctKeys ∧ t.reach = 2 ∧
      Shows "root" t (treeOutline "root" 2 t) ∧ ¬ Shows "root" t (treeOutline "root" 1 t) ∧
      ∀ depth, treeOutline "root" depth (.object [("a", .object []), ("b", .list [.null])])
        = treeOutline "root" depth t := by
  intro t
  have hkeys : t.DistinctKeys := by
    refine .object (show ["b", "a"].Nodup by decide) ?_
    rw [List.forall_mem_cons, List.forall_mem_singleton]
    refine ⟨.list ?_, .object List.nodup_nil (List.forall_mem_nil _)⟩
    rw [List.forall_mem_singleton]
    exact .scalar rfl
  have hreach : t.reach = 2 := by decide
  have hreordered : Reordered t (.object [("a", .object []), ("b", .list [.null])]) :=
    .object rfl (.cons (.same _) (.cons (.same _) .nil)) (.swap _ _ _)
  obtain ⟨-, -, hrest⟩ := treeOutline_cut_complete_ordered "root" t
  obtain ⟨hshows, hsame⟩ := hrest hkeys
  refine ⟨hkeys, hreach, (hshows 2).mpr (Nat.le_of_eq hreach), ?_,
    fun depth => hsame _ depth hreordered⟩
  rw [hshows, hreach]
  decide

end QueryAdvisor
