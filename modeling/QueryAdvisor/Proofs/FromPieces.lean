import Mathlib.Data.List.Basic
import QueryAdvisor.Proofs.Shown

/-!
# What a from item keeps

A from item is folded from the left: its first relation is the tree to which the
others are joined. A relation without a node cannot be joined to, and nothing can
be joined to it. So it takes more with it than itself: as the first relation it
takes the whole item, as a joined one the condition that joins it.

`FromItem.parts` lists all tables, derived tables, nested joins and conditions of
an item in the order in which they are written, each with a flag that says whether
it has a place in the tree. `fromLeaves` reads a tree of joins back from left to
right. The two agree: the tree holds what has a place, in order and nothing else,
and it holds everything if and only if every part has a place.

A nested join has no node of its own. It is the tree of its joins, which stands
where the nested join stands.
-/

namespace QueryAdvisor

open ParseTree Sql

/-! ## The parts of a from item -/

namespace Sql

/-- A part of a from item. -/
inductive Piece where
  | table (name : List Ident) (label : Option Ident)
  | derived (query : Query) (label : Option Ident)
  | nested (item : FromItem)
  | condition (value : Expr)

/-- A part, and whether it has a place in the tree. -/
structure FromPart where
  piece : Piece
  placed : Bool

/-- The condition of a join, where it is kept. -/
def conditionPieces (kind : JoinKind) (condition : Option Expr) : List Piece :=
  if kind.hasCondition then (condition.map Piece.condition).toList else []

mutual

/-- The parts of a from item that has a place, or has none. -/
def FromItem.parts (placed : Bool) : FromItem → List FromPart
  | .mk relation joins => relation.parts placed ++ joinParts placed joins

/-- The parts of what is joined: each relation, then its condition. Both need a
relation that is kept. -/
def joinParts (placed : Bool) : List Join → List FromPart
  | [] => []
  | .mk kind relation condition :: rest =>
      relation.parts (placed && relation.isKept)
        ++ (conditionPieces kind condition).map (⟨·, placed && relation.isKept⟩)
        ++ joinParts placed rest

/-- The parts of a relation: a nested join comes before its own parts. -/
def TableFactor.parts (placed : Bool) : TableFactor → List FromPart
  | .table name label => [⟨.table name label, placed⟩]
  | .derived query label => [⟨.derived query label, placed⟩]
  | .nestedJoin item => ⟨.nested item, placed⟩ :: item.parts placed
  | .other => []

end

end Sql

/-! ## Reading a tree of joins -/

/-- What a tree of joins is made of: its relations, each join's condition behind
the relation that is joined. -/
def ParseTree.fromLeaves : Tree → List Tree
  | .object [("JoinExpr",
      .object (("jointype", _) :: ("larg", left) :: ("rarg", right) :: rest))] =>
      fromLeaves left ++ fromLeaves right ++ (Fields.get? rest "quals").toList
  | t => [t]

/-- A tree stands in a tree of joins as one of its relations. -/
inductive ParseTree.StandsIn (t : Tree) : Tree → Prop where
  | self : StandsIn t t
  | left {left : Tree} (h : StandsIn t left) (kind : JoinKind) (right : Tree)
      (condition : Option Tree) : StandsIn t (joinNode kind left right condition)
  | right {right : Tree} (h : StandsIn t right) (kind : JoinKind) (left : Tree)
      (condition : Option Tree) : StandsIn t (joinNode kind left right condition)

theorem fromLeaves_joinNode (kind : JoinKind) (left right : Tree) (condition : Option Tree) :
    fromLeaves (joinNode kind left right condition)
      = fromLeaves left ++ fromLeaves right
          ++ (if keepsCondition kind then condition else none).toList := by
  have hquals : ∀ t : Option Tree, Fields.get? (optionalField "quals" t) "quals" = t := by
    intro t
    cases t <;> rfl
  rw [joinNode, node, List.cons_append, List.cons_append, List.cons_append, List.nil_append,
    fromLeaves, hquals]

theorem fromLeaves_node {kind : String} (h : kind ≠ "JoinExpr") (fields : Fields) :
    fromLeaves (node kind fields) = [node kind fields] := by
  rw [node, fromLeaves]
  simp [h]

theorem ParseTree.StandsIn.trans {t u w : Tree} (h : StandsIn t u) (h' : StandsIn u w) :
    StandsIn t w := by
  induction h' with
  | self => exact h
  | left _ kind right condition ih => exact .left ih kind right condition
  | right _ kind left condition ih => exact .right ih kind left condition

/-! ## What has a place -/

/-- The tree of a part that has a node of its own. -/
def Sql.Piece.tree? : Piece → Option Tree
  | .table name label => some (node "RangeVar" (rangeVarFields name ++ aliasFields label))
  | .derived query label =>
      some (node "RangeSubselect" ([("subquery", queryNode query)] ++ aliasFields label))
  | .nested _ => none
  | .condition value => some (exprNode value)

/-- The trees of the parts that have a place. -/
def placedTrees (parts : List FromPart) : List Tree :=
  ((parts.filter FromPart.placed).map FromPart.piece).filterMap Piece.tree?

theorem placedTrees_append (a b : List FromPart) :
    placedTrees (a ++ b) = placedTrees a ++ placedTrees b := by
  rw [placedTrees, List.filter_append, List.map_append, List.filterMap_append, ← placedTrees,
    ← placedTrees]

theorem placedTrees_eq_nil {parts : List FromPart} (h : ∀ part ∈ parts, part.placed = false) :
    placedTrees parts = [] := by
  have hnone : parts.filter FromPart.placed = [] := by
    rw [List.filter_eq_nil_iff]
    intro part hpart
    rw [h part hpart]
    exact Bool.false_ne_true
  rw [placedTrees, hnone, List.map_nil, List.filterMap_nil]

/-- A part of what is joined belongs to the first relation, is its condition, or
comes later. -/
theorem mem_joinParts_cons {placed : Bool} {kind : JoinKind} {relation : TableFactor}
    {condition : Option Expr} {rest : List Join} {part : FromPart} :
    part ∈ joinParts placed (.mk kind relation condition :: rest) ↔
      part ∈ relation.parts (placed && relation.isKept) ∨
        (∃ value, .condition value ∈ conditionPieces kind condition ∧
          part = ⟨.condition value, placed && relation.isKept⟩) ∨
        part ∈ joinParts placed rest := by
  have hcondition : ∀ piece ∈ conditionPieces kind condition,
      ∃ value, piece = .condition value := by
    intro piece hpiece
    rw [conditionPieces] at hpiece
    split at hpiece
    · obtain ⟨value, -, hvalue⟩ := Option.map_eq_some_iff.mp (Option.mem_toList.mp hpiece)
      exact ⟨value, hvalue.symm⟩
    · exact absurd hpiece List.not_mem_nil
  rw [joinParts, List.append_assoc, List.mem_append, List.mem_append, List.mem_map]
  refine or_congr_right (or_congr_left ⟨?_, ?_⟩)
  · rintro ⟨piece, hpiece, rfl⟩
    obtain ⟨value, rfl⟩ := hcondition piece hpiece
    exact ⟨value, hpiece, rfl⟩
  · rintro ⟨value, hvalue, rfl⟩
    exact ⟨_, hvalue, rfl⟩

mutual

/-- Nothing in an item without a place has one. -/
theorem not_placed_parts (item : FromItem) : ∀ part ∈ item.parts false, part.placed = false := by
  match item with
  | .mk relation joins =>
      rw [FromItem.parts]
      intro part hpart
      rcases List.mem_append.mp hpart with h | h
      · exact not_placed_factorParts relation part h
      · exact not_placed_joinParts joins part h

theorem not_placed_joinParts (joins : List Join) :
    ∀ part ∈ joinParts false joins, part.placed = false := by
  match joins with
  | [] =>
      rw [joinParts]
      exact fun part h => absurd h List.not_mem_nil
  | .mk kind relation condition :: rest =>
      intro part hpart
      rcases mem_joinParts_cons.mp hpart with h | ⟨value, -, rfl⟩ | h
      · exact not_placed_factorParts relation part h
      · rfl
      · exact not_placed_joinParts rest part h

theorem not_placed_factorParts (factor : TableFactor) :
    ∀ part ∈ factor.parts false, part.placed = false := by
  match factor with
  | .table _ _ | .derived _ _ =>
      rw [TableFactor.parts]
      intro part hpart
      rw [List.mem_singleton.mp hpart]
  | .nestedJoin item =>
      rw [TableFactor.parts]
      intro part hpart
      rcases List.mem_cons.mp hpart with rfl | h
      · rfl
      · exact not_placed_parts item part h
  | .other =>
      rw [TableFactor.parts]
      exact fun part h => absurd h List.not_mem_nil

end

theorem isKept_of_factorNode?_eq_none {factor : TableFactor} (h : factorNode? factor = none) :
    factor.isKept = false := by
  rw [← isSome_factorNode?, h, Option.isSome_none]

theorem isKept_of_factorNode?_eq_some {factor : TableFactor} {t : Tree}
    (h : factorNode? factor = some t) : factor.isKept = true := by
  rw [← isSome_factorNode?, h, Option.isSome_some]

theorem placedTrees_condition (kind : JoinKind) (condition : Option Expr) :
    placedTrees ((conditionPieces kind condition).map (⟨·, true⟩))
      = (if keepsCondition kind then optionNode condition else none).toList := by
  cases condition with
  | none => cases kind <;> rfl
  | some value =>
      rw [optionNode]
      cases kind <;> rfl

mutual

theorem leaves_fromNode? (item : FromItem) :
    (fromNode? item).toList.flatMap fromLeaves = placedTrees (item.parts item.isKept) := by
  match item with
  | .mk relation joins =>
      have hrelation := leaves_factorNode? relation
      rw [fromNode?, FromItem.parts, FromItem.isKept, placedTrees_append, ← hrelation]
      cases hnode : factorNode? relation with
      | none =>
          rw [isKept_of_factorNode?_eq_none hnode, placedTrees_eq_nil (not_placed_joinParts joins)]
          rfl
      | some t =>
          rw [isKept_of_factorNode?_eq_some hnode]
          simp only [Option.toList_some, List.flatMap_cons, List.flatMap_nil, List.append_nil]
          exact leaves_joined t joins

theorem leaves_joined (left : Tree) (joins : List Join) :
    fromLeaves (joined left joins) = fromLeaves left ++ placedTrees (joinParts true joins) := by
  match joins with
  | [] => rw [joined, joinParts, placedTrees_eq_nil (fun _ h => absurd h List.not_mem_nil),
      List.append_nil]
  | .mk kind relation condition :: rest =>
      have hrelation := leaves_factorNode? relation
      rw [joined, joinParts, Bool.true_and, placedTrees_append, placedTrees_append, ← hrelation]
      cases hnode : factorNode? relation with
      | none =>
          -- the condition goes with its relation, and the joins go on from the same tree
          have hcondition : placedTrees
              ((conditionPieces kind condition).map (⟨·, relation.isKept⟩)) = [] := by
            refine placedTrees_eq_nil fun part hpart => ?_
            obtain ⟨piece, -, rfl⟩ := List.mem_map.mp hpart
            exact isKept_of_factorNode?_eq_none hnode
          rw [hcondition]
          exact leaves_joined left rest
      | some right =>
          rw [isKept_of_factorNode?_eq_some hnode, placedTrees_condition]
          dsimp only
          rw [leaves_joined _ rest, fromLeaves_joinNode]
          simp only [Option.toList_some, List.flatMap_cons, List.flatMap_nil, List.append_nil,
            List.append_assoc]

theorem leaves_factorNode? (factor : TableFactor) :
    (factorNode? factor).toList.flatMap fromLeaves = placedTrees (factor.parts factor.isKept) := by
  match factor with
  | .table name label =>
      rw [factorNode?, TableFactor.parts, TableFactor.isKept, Option.toList_some,
        List.flatMap_singleton, fromLeaves_node (by decide)]
      rfl
  | .derived query label =>
      rw [factorNode?, TableFactor.parts, TableFactor.isKept, Option.toList_some,
        List.flatMap_singleton, fromLeaves_node (by decide)]
      rfl
  | .nestedJoin item =>
      rw [factorNode?, TableFactor.parts, TableFactor.isKept, leaves_fromNode? item]
      cases item.isKept <;> rfl
  | .other => rw [factorNode?, TableFactor.parts]; rfl

end

/-! ## Nested joins -/

theorem standsIn_joined (left : Tree) (joins : List Join) : StandsIn left (joined left joins) := by
  match joins with
  | [] => rw [joined]; exact .self
  | .mk kind relation condition :: rest =>
      rw [joined]
      split
      · exact standsIn_joined left rest
      · next right _ =>
          exact (StandsIn.left .self kind right _).trans (standsIn_joined _ rest)

mutual

/-- A nested join that has a place stands in the tree of the item. -/
theorem stands_fromNode? (item : FromItem) {inner : FromItem}
    (h : ⟨.nested inner, true⟩ ∈ item.parts item.isKept) :
    ∃ t whole, fromNode? inner = some t ∧ fromNode? item = some whole ∧ StandsIn t whole := by
  match item with
  | .mk relation joins =>
      rw [FromItem.parts, FromItem.isKept] at h
      rw [fromNode?]
      cases hnode : factorNode? relation with
      | none =>
          rw [isKept_of_factorNode?_eq_none hnode] at h
          have hplaced := not_placed_parts (.mk relation joins)
          rw [FromItem.parts] at hplaced
          cases hplaced _ h
      | some first =>
          rcases List.mem_append.mp h with h | h
          · obtain ⟨t, whole, ht, hwhole, hstands⟩ := stands_factorNode? relation h
            rw [hnode, Option.some.injEq] at hwhole
            subst hwhole
            exact ⟨t, _, ht, rfl, hstands.trans (standsIn_joined first joins)⟩
          · rw [isKept_of_factorNode?_eq_some hnode] at h
            obtain ⟨t, ht, hstands⟩ := stands_joined first joins h
            exact ⟨t, _, ht, rfl, hstands⟩

theorem stands_joined (left : Tree) (joins : List Join) {inner : FromItem}
    (h : ⟨.nested inner, true⟩ ∈ joinParts true joins) :
    ∃ t, fromNode? inner = some t ∧ StandsIn t (joined left joins) := by
  match joins with
  | [] =>
      rw [joinParts] at h
      exact absurd h List.not_mem_nil
  | .mk kind relation condition :: rest =>
      rw [joined]
      rcases mem_joinParts_cons.mp h with h | ⟨value, -, heq⟩ | h
      · rw [Bool.true_and] at h
        obtain ⟨t, right, ht, hright, hstands⟩ := stands_factorNode? relation h
        rw [hright]
        dsimp only
        exact ⟨t, ht, (hstands.trans (.right .self kind left _)).trans (standsIn_joined _ rest)⟩
      · cases heq
      · split
        · exact stands_joined left rest h
        · exact stands_joined _ rest h

theorem stands_factorNode? (factor : TableFactor) {inner : FromItem}
    (h : ⟨.nested inner, true⟩ ∈ factor.parts factor.isKept) :
    ∃ t whole, fromNode? inner = some t ∧ factorNode? factor = some whole ∧ StandsIn t whole := by
  match factor with
  | .table _ _ | .derived _ _ =>
      rw [TableFactor.parts] at h
      cases List.mem_singleton.mp h
  | .nestedJoin item =>
      rw [TableFactor.parts, TableFactor.isKept] at h
      rw [factorNode?]
      rcases List.mem_cons.mp h with heq | h
      · rw [FromPart.mk.injEq, Piece.nested.injEq] at heq
        obtain ⟨rfl, hkept⟩ := heq
        rw [← isSome_fromNode?] at hkept
        obtain ⟨t, ht⟩ := Option.isSome_iff_exists.mp hkept.symm
        exact ⟨t, t, ht, ht, .self⟩
      · exact stands_fromNode? item h
  | .other =>
      rw [TableFactor.parts] at h
      exact absurd h List.not_mem_nil

end

mutual

/-- A nested join brings its parts, which have a place where it has one. -/
theorem parts_subset (item : FromItem) (placed : Bool) {inner : FromItem} {b : Bool}
    (h : ⟨.nested inner, b⟩ ∈ item.parts placed) : inner.parts b ⊆ item.parts placed := by
  match item with
  | .mk relation joins =>
      rw [FromItem.parts] at h ⊢
      intro part hpart
      rcases List.mem_append.mp h with h | h
      · exact List.mem_append_left _ (factorParts_subset relation placed h hpart)
      · exact List.mem_append_right _ (joinParts_subset joins placed h hpart)

theorem joinParts_subset (joins : List Join) (placed : Bool) {inner : FromItem} {b : Bool}
    (h : ⟨.nested inner, b⟩ ∈ joinParts placed joins) :
    inner.parts b ⊆ joinParts placed joins := by
  match joins with
  | [] =>
      rw [joinParts] at h
      exact absurd h List.not_mem_nil
  | .mk kind relation condition :: rest =>
      intro part hpart
      rw [mem_joinParts_cons]
      rcases mem_joinParts_cons.mp h with h | ⟨value, -, heq⟩ | h
      · exact .inl (factorParts_subset relation _ h hpart)
      · cases heq
      · exact .inr (.inr (joinParts_subset rest placed h hpart))

theorem factorParts_subset (factor : TableFactor) (placed : Bool) {inner : FromItem} {b : Bool}
    (h : ⟨.nested inner, b⟩ ∈ factor.parts placed) : inner.parts b ⊆ factor.parts placed := by
  match factor with
  | .table _ _ | .derived _ _ =>
      rw [TableFactor.parts] at h
      cases List.mem_singleton.mp h
  | .nestedJoin item =>
      rw [TableFactor.parts] at h ⊢
      intro part hpart
      refine List.mem_cons_of_mem _ ?_
      rcases List.mem_cons.mp h with heq | h
      · rw [FromPart.mk.injEq, Piece.nested.injEq] at heq
        rw [← heq.1, ← heq.2]
        exact hpart
      · exact parts_subset item placed h hpart
  | .other =>
      rw [TableFactor.parts] at h
      exact absurd h List.not_mem_nil

end

mutual

/-- An item that is kept has a part with a node: that of its first relation. -/
theorem exists_tree_of_isKept (item : FromItem) (h : item.isKept = true) (placed : Bool) :
    ∃ part ∈ item.parts placed, part.placed = placed ∧ part.piece.tree?.isSome = true := by
  match item with
  | .mk relation joins =>
      rw [FromItem.isKept] at h
      obtain ⟨part, hpart, htree⟩ := exists_tree_of_factor_isKept relation h placed
      rw [FromItem.parts]
      exact ⟨part, List.mem_append_left _ hpart, htree⟩

theorem exists_tree_of_factor_isKept (factor : TableFactor) (h : factor.isKept = true)
    (placed : Bool) :
    ∃ part ∈ factor.parts placed, part.placed = placed ∧ part.piece.tree?.isSome = true := by
  match factor with
  | .table _ _ | .derived _ _ =>
      rw [TableFactor.parts]
      exact ⟨_, List.mem_singleton_self _, rfl, rfl⟩
  | .nestedJoin item =>
      rw [TableFactor.isKept] at h
      obtain ⟨part, hpart, htree⟩ := exists_tree_of_isKept item h placed
      rw [TableFactor.parts]
      exact ⟨part, List.mem_cons_of_mem _ hpart, htree⟩
  | .other =>
      rw [TableFactor.isKept] at h
      cases h

end

/-! ## Everything is kept, or something is lost -/

namespace Sql.FromItem

/-- All parts of a from item, as they are written. -/
def pieces (item : FromItem) : List Piece :=
  (item.parts item.isKept).map FromPart.piece

def shownPieces (item : FromItem) : List Piece :=
  ((item.parts item.isKept).filter FromPart.placed).map FromPart.piece

def lostPieces (item : FromItem) : List Piece :=
  ((item.parts item.isKept).filter fun part => !part.placed).map FromPart.piece

/-- Every part of a from item can be found in its tree, in order. -/
structure IsTranslated (item : FromItem) : Prop where
  leaves : (fromNode? item).toList.flatMap fromLeaves = item.pieces.filterMap Piece.tree?
  nested : ∀ inner, .nested inner ∈ item.pieces →
    ∃ t whole, fromNode? inner = some t ∧ fromNode? item = some whole ∧ StandsIn t whole

end Sql.FromItem

/-- A part with a node is missed among the trees when it has no place. -/
theorem length_placedTrees_lt {parts : List FromPart} {part : FromPart} (hmem : part ∈ parts)
    (hplaced : part.placed = false) (htree : part.piece.tree?.isSome = true) :
    (placedTrees parts).length < ((parts.map FromPart.piece).filterMap Piece.tree?).length := by
  have hle : ∀ l : List FromPart,
      (placedTrees l).length ≤ ((l.map FromPart.piece).filterMap Piece.tree?).length := by
    intro l
    exact ((List.filter_sublist.map FromPart.piece).filterMap Piece.tree?).length_le
  obtain ⟨t, ht⟩ := Option.isSome_iff_exists.mp htree
  obtain ⟨front, back, rfl⟩ := List.append_of_mem hmem
  have hskip : placedTrees (part :: back) = placedTrees back := by
    rw [placedTrees, List.filter_cons_of_neg (by rw [hplaced]; exact Bool.false_ne_true),
      ← placedTrees]
  rw [placedTrees_append, hskip, List.length_append, List.map_append, List.map_cons,
    List.filterMap_append, List.filterMap_cons_some ht, List.length_append, List.length_cons]
  have hfront := hle front
  have hback := hle back
  omega

/-- When everything can be found in the tree, every part has a place. -/
theorem Sql.FromItem.IsTranslated.placed {item : FromItem} (h : item.IsTranslated) :
    ∀ part ∈ item.parts item.isKept, part.placed = true := by
  -- a part without a place that has a node leaves the trees too few
  have htree : ∀ part ∈ item.parts item.isKept, part.placed = false →
      part.piece.tree?.isSome = false := by
    intro part hpart hplaced
    cases hsome : part.piece.tree?.isSome with
    | false => rfl
    | true =>
        have hlt := length_placedTrees_lt hpart hplaced hsome
        rw [← leaves_fromNode?, h.leaves] at hlt
        exact absurd hlt (Nat.lt_irrefl _)
  rintro ⟨piece, placed⟩ hpart
  cases placed with
  | true => rfl
  | false =>
      cases piece with
      | table _ _ | derived _ _ | condition _ => cases htree _ hpart rfl
      | nested inner =>
          -- its first relation has a node, and no place either
          obtain ⟨t, -, ht, -⟩ := h.nested inner (List.mem_map.mpr ⟨_, hpart, rfl⟩)
          have hkept : inner.isKept = true := by
            rw [← isSome_fromNode?, ht, Option.isSome_some]
          obtain ⟨part, hinner, hnone, hsome⟩ := exists_tree_of_isKept inner hkept false
          rw [htree part (parts_subset item _ hpart hinner) hnone] at hsome
          cases hsome

/-- The tree of a from item is made of the parts that have a place, in the order in
which they are written, and of nothing else; a nested join among them stands in
the tree as a whole. So every table, derived table, nested join and condition can
be found in the tree if and only if none of them has lost its place to a relation
without a node. -/
theorem fromItem_translated_iff (item : FromItem) :
    (fromNode? item).toList.flatMap fromLeaves = item.shownPieces.filterMap Piece.tree? ∧
      (∀ inner, .nested inner ∈ item.shownPieces →
        ∃ t whole, fromNode? inner = some t ∧ fromNode? item = some whole ∧ StandsIn t whole) ∧
      item.shownPieces.Sublist item.pieces ∧
      item.shownPieces.length + item.lostPieces.length = item.pieces.length ∧
      (item.IsTranslated ↔ item.lostPieces = []) := by
  have hleaves : (fromNode? item).toList.flatMap fromLeaves
      = item.shownPieces.filterMap Piece.tree? := leaves_fromNode? item
  have hnested : ∀ inner, .nested inner ∈ item.shownPieces →
      ∃ t whole, fromNode? inner = some t ∧ fromNode? item = some whole ∧ StandsIn t whole := by
    intro inner hinner
    obtain ⟨⟨piece, placed⟩, hpart, rfl⟩ := List.mem_map.mp hinner
    obtain ⟨hpart, hplaced⟩ := List.mem_filter.mp hpart
    cases hplaced
    exact stands_fromNode? item hpart
  have hlost : item.lostPieces = [] ↔ ∀ part ∈ item.parts item.isKept, part.placed = true := by
    rw [FromItem.lostPieces, List.map_eq_nil_iff, List.filter_eq_nil_iff]
    simp only [Bool.not_eq_true', Bool.not_eq_false]
  refine ⟨hleaves, hnested, List.filter_sublist.map _, ?_, ?_⟩
  · rw [FromItem.shownPieces, FromItem.lostPieces, FromItem.pieces, List.length_map,
      List.length_map, List.length_map]
    exact (List.length_eq_length_filter_add FromPart.placed).symm
  · rw [hlost]
    refine ⟨FromItem.IsTranslated.placed, fun hplaced => ?_⟩
    have hall : item.shownPieces = item.pieces := by
      rw [FromItem.shownPieces, List.filter_eq_self.mpr hplaced, FromItem.pieces]
    rw [hall] at hleaves hnested
    exact ⟨hleaves, hnested⟩

/-- `c = 1`. -/
def Sql.joinCondition : Expr :=
  .binary (.identifier ⟨"c", false⟩) (.symbol "=") (.literal (.number "1"))

/-- `UNNEST(x) JOIN b ON c = 1`. -/
def Sql.unnestFirst : FromItem :=
  .mk .other [.mk .inner (.table [⟨"b", false⟩] none) (some joinCondition)]

/-- `b JOIN UNNEST(x) ON c = 1`. -/
def Sql.unnestJoined : FromItem :=
  .mk (.table [⟨"b", false⟩] none) [.mk .inner .other (some joinCondition)]

/-- A relation without a node takes the table and the condition with it when it comes
first, and the condition when it is joined. -/
theorem unsupported_relation_takes_more :
    (unnestFirst.pieces = [.table [⟨"b", false⟩] none, .condition joinCondition] ∧
      fromNode? unnestFirst = none ∧ ¬ unnestFirst.IsTranslated) ∧
      unnestJoined.pieces = [.table [⟨"b", false⟩] none, .condition joinCondition] ∧
      fromNode? unnestJoined = factorNode? (.table [⟨"b", false⟩] none) ∧
      ¬ unnestJoined.IsTranslated := by
  refine ⟨⟨rfl, rfl, fun h => ?_⟩, rfl, rfl, fun h => ?_⟩
  · cases h.placed ⟨.table [⟨"b", false⟩] none, false⟩ (.head _)
  · cases h.placed ⟨.condition joinCondition, false⟩ (.tail _ (.head _))

end QueryAdvisor
