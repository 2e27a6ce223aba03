import QueryAdvisor.ParseTree.Build
import QueryAdvisor.Proofs.Skeleton
import QueryAdvisor.Tree.Walk

/-!
# The shape of a tree

The shape of a tree is the tree with its texts emptied. Keys and their order,
the lengths of lists, truth values and numbers all stay, so two trees of one
shape differ in nothing but what their text leaves hold.

A node of a parse tree has its shape from those of its parts: there is one
lemma for each construct, and none of them asks what the names and texts are
that go into the node.
-/

namespace QueryAdvisor

namespace Tree

mutual

/-- The tree with every text in it emptied. -/
def shape : Tree → Tree
  | .null => .null
  | .bool value => .bool value
  | .number value => .number value
  | .text _ => .text ""
  | .list items => .list (shapeItems items)
  | .object fields => .object (shapeFields fields)

def shapeItems : List Tree → List Tree
  | [] => []
  | t :: rest => shape t :: shapeItems rest

def shapeFields : List (String × Tree) → List (String × Tree)
  | [] => []
  | (key, t) :: rest => (key, shape t) :: shapeFields rest

end

@[simp] theorem shapeItems_append (a b : List Tree) :
    shapeItems (a ++ b) = shapeItems a ++ shapeItems b := by
  induction a with
  | nil => rw [List.nil_append, shapeItems, List.nil_append]
  | cons t rest ih => rw [List.cons_append, shapeItems, shapeItems, ih, List.cons_append]

@[simp] theorem shapeFields_append (a b : Fields) :
    shapeFields (a ++ b) = shapeFields a ++ shapeFields b := by
  induction a with
  | nil => rw [List.nil_append, shapeFields, List.nil_append]
  | cons f rest ih =>
      obtain ⟨key, t⟩ := f
      rw [List.cons_append, shapeFields, shapeFields, ih, List.cons_append]

theorem isEmpty_shapeItems (items : List Tree) : (shapeItems items).isEmpty = items.isEmpty := by
  cases items with
  | nil => rw [shapeItems]
  | cons t rest => rw [shapeItems]; rfl

theorem get?_shapeFields (fields : Fields) (key : String) :
    Fields.get? (shapeFields fields) key = (fields.get? key).map shape := by
  induction fields with
  | nil => rw [shapeFields]; rfl
  | cons f rest ih =>
      obtain ⟨k, t⟩ := f
      rw [shapeFields, Fields.get?, Fields.get?, ih]
      split <;> rfl

theorem shapeFields_put (fields : Fields) (key : String) (t : Tree) :
    shapeFields (fields.put key t) = Fields.put (shapeFields fields) key t.shape := by
  induction fields with
  | nil => simp only [Fields.put, shapeFields]
  | cons f rest ih =>
      obtain ⟨k, v⟩ := f
      rw [Fields.put, shapeFields, Fields.put]
      split
      · rw [shapeFields]
      · rw [shapeFields, ih]

/-- The shape of a tree has an object wherever the tree has one. -/
theorem isSome_object?_shapeFields (fields : Fields) (key : String) :
    (Fields.object? (shapeFields fields) key).isSome = (fields.object? key).isSome := by
  rw [Fields.object?, Fields.object?, get?_shapeFields]
  cases fields.get? key with
  | none => rfl
  | some t => cases t <;> rfl

mutual

theorem objects_shape (t : Tree) : t.shape.objects = t.objects.map shapeFields := by
  match t with
  | .null | .bool _ | .number _ | .text _ => simp only [shape, objects, List.map_nil]
  | .list items =>
      rw [shape, objects, objects]
      exact objectsItems_shape items
  | .object fields =>
      rw [shape, objects, objects, List.map_cons, objectsFields_shape fields]

theorem objectsItems_shape (items : List Tree) :
    objectsItems (shapeItems items) = (objectsItems items).map shapeFields := by
  match items with
  | [] => rw [shapeItems, objectsItems, List.map_nil]
  | t :: rest =>
      rw [shapeItems, objectsItems, objectsItems, List.map_append, objects_shape t,
        objectsItems_shape rest]

theorem objectsFields_shape (fields : List (String × Tree)) :
    objectsFields (shapeFields fields) = (objectsFields fields).map shapeFields := by
  match fields with
  | [] => rw [shapeFields, objectsFields, List.map_nil]
  | (key, t) :: rest =>
      rw [shapeFields, objectsFields, objectsFields, List.map_append, objects_shape t,
        objectsFields_shape rest]

end

end Tree

namespace ParseTree

open Sql QueryAdvisor.Tree

theorem shape_node (kind : String) (fields : Fields) :
    (node kind fields).shape = node kind (shapeFields fields) := by
  rw [node, shape, shapeFields, shape, shapeFields, node]

/-- Nodes of one kind have one shape if their fields have. -/
theorem shape_node_congr (kind : String) {fields fields' : Fields}
    (h : shapeFields fields = shapeFields fields') :
    (node kind fields).shape = (node kind fields').shape := by
  rw [shape_node, shape_node, h]

@[simp] theorem shapeFields_optionalField (key : String) (t : Option Tree) :
    shapeFields (optionalField key t) = optionalField key (t.map shape) := by
  cases t <;> simp only [optionalField, shapeFields, Option.map_none, Option.map_some]

@[simp] theorem shapeFields_listField (key : String) (items : List Tree) :
    shapeFields (listField key items) = listField key (shapeItems items) := by
  rw [listField, listField, isEmpty_shapeItems]
  split <;> simp only [shapeFields, shape]

@[simp] theorem shape_segment (s : String) : (segment s).shape = segment "" := by
  simp only [segment, shape_node, shapeFields, shape]

/-- Of a name only the number of its parts is left. -/
@[simp] theorem shapeItems_identSegment (parts : List Ident) :
    shapeItems (parts.map identSegment) = parts.map fun _ => segment "" := by
  induction parts with
  | nil => rw [List.map_nil, shapeItems, List.map_nil]
  | cons i rest ih =>
      rw [List.map_cons, shapeItems, identSegment, shape_segment, ih, List.map_cons]

@[simp] theorem shapeItems_identSegment_skeleton (parts : List Ident) :
    shapeItems ((parts.map Ident.skeleton).map identSegment)
      = shapeItems (parts.map identSegment) := by
  rw [shapeItems_identSegment, shapeItems_identSegment, List.map_map]
  rfl

/-- A list of name segments, whatever comes behind them. -/
theorem shape_columnFields_skeleton (parts : List Ident) (rest : List Tree) :
    (node "ColumnRef"
        [("fields", .list ((parts.map Ident.skeleton).map identSegment ++ rest))]).shape
      = (node "ColumnRef" [("fields", .list (parts.map identSegment ++ rest))]).shape := by
  refine shape_node_congr _ ?_
  simp only [shapeFields, shape, shapeItems_append, shapeItems_identSegment_skeleton]

theorem shape_literalNode_skeleton (value : Literal) :
    (literalNode value.skeleton).shape = (literalNode value).shape := by
  cases value <;> simp only [Literal.skeleton, literalNode, textConst, constNode, shape_node,
    shapeFields, shape]

theorem shape_boolExpr_congr (op : String) {args args' : List Tree}
    (h : shapeItems args = shapeItems args') :
    (boolExpr op args).shape = (boolExpr op args').shape := by
  refine shape_node_congr _ ?_
  simp only [shapeFields, shape, h]

theorem shape_operatorNode_congr {kind name name' : String} {left left' : Option Tree}
    {right right' : Tree} (hl : left.map shape = left'.map shape)
    (hr : right.shape = right'.shape) :
    (operatorNode kind name left right).shape = (operatorNode kind name' left' right').shape := by
  refine shape_node_congr _ ?_
  simp only [shapeFields_append, shapeFields, shape, shapeItems, shape_segment,
    shapeFields_optionalField, hl, hr]

theorem shape_nullTest_congr (test : String) {inner inner' : Tree}
    (h : inner.shape = inner'.shape) :
    (nullTest inner test).shape = (nullTest inner' test).shape := by
  refine shape_node_congr _ ?_
  simp only [shapeFields, h]

theorem shape_typeCast_congr {type type' : String} {inner inner' : Tree}
    (h : inner.shape = inner'.shape) :
    (typeCast inner type).shape = (typeCast inner' type').shape := by
  refine shape_node_congr _ ?_
  simp only [shapeFields, shape, shapeItems, shape_segment, h]

theorem shape_subLink_congr (kind : String) {test test' : Option Tree} {query query' : Tree}
    (ht : test.map shape = test'.map shape) (hq : query.shape = query'.shape) :
    (subLink kind test query).shape = (subLink kind test' query').shape := by
  refine shape_node_congr _ ?_
  simp only [shapeFields_append, shapeFields, shapeFields_optionalField, ht, hq]

theorem shape_negatedIf_congr (negated : Bool) {t t' : Tree} (h : t.shape = t'.shape) :
    (negatedIf negated t).shape = (negatedIf negated t').shape := by
  cases negated with
  | false => exact h
  | true => exact shape_boolExpr_congr _ (by simp only [shapeItems, h])

theorem shape_callNode_congr (name : List Ident) (star : Bool) {args args' : List Tree}
    (h : shapeItems args = shapeItems args') :
    (callNode (name.map Ident.skeleton) star args).shape = (callNode name star args').shape := by
  refine shape_node_congr _ ?_
  rw [← listField, ← listField]
  simp only [shapeFields_append, shapeFields, shape, shapeItems_identSegment_skeleton,
    shapeFields_listField, h]

theorem shapeFields_rangeVar_skeleton (name : List Ident) :
    shapeFields (rangeVarFields (name.map Ident.skeleton)) = shapeFields (rangeVarFields name) := by
  rw [rangeVarFields, rangeVarFields, ← List.map_reverse]
  match name.reverse with
  | [] => rfl
  | [_] => simp only [List.map_cons, List.map_nil, shapeFields, shape]
  | _ :: _ :: _ => simp only [List.map_cons, shapeFields, shape]

theorem shapeFields_alias_skeleton (label : Option Ident) :
    shapeFields (aliasFields (label.map Ident.skeleton)) = shapeFields (aliasFields label) := by
  cases label <;> simp only [Option.map_none, Option.map_some, aliasFields, shapeFields, shape]

theorem shape_joinNode_congr (kind : JoinKind) {left left' right right' : Tree}
    {condition condition' : Option Tree} (hl : left.shape = left'.shape)
    (hr : right.shape = right'.shape) (hc : condition.map shape = condition'.map shape) :
    (joinNode kind left right condition).shape = (joinNode kind left' right' condition').shape := by
  have hkept : (if keepsCondition kind then condition else none).map shape
      = (if keepsCondition kind then condition' else none).map shape := by
    cases keepsCondition kind with
    | true => exact hc
    | false => rfl
  refine shape_node_congr _ ?_
  simp only [shapeFields_append, shapeFields, shapeFields_optionalField, hl, hr, hkept]

theorem shape_targetNode_congr (label : Option Ident) {value value' : Tree}
    (h : value.shape = value'.shape) :
    (targetNode (label.map Ident.skeleton) value).shape = (targetNode label value').shape := by
  refine shape_node_congr _ ?_
  cases label <;> simp only [shapeFields_append, shapeFields_optionalField, shapeFields, h,
    Option.map_none, Option.map_some, shape]

theorem shape_insertNode_congr {source source' : Option Tree}
    (h : source.map shape = source'.map shape) :
    (insertNode source).shape = (insertNode source').shape := by
  refine shape_node_congr _ ?_
  simp only [shapeFields_optionalField, h]

theorem shape_updateNode_congr {target target' condition condition' : Option Tree}
    (ht : target.map shape = target'.map shape)
    (hc : condition.map shape = condition'.map shape) :
    (updateNode target condition).shape = (updateNode target' condition').shape := by
  refine shape_node_congr _ ?_
  simp only [shapeFields_append, shapeFields_optionalField, ht, hc]

/-- A clause goes where the shape of the node has room for it. -/
theorem shape_attachTables (recursive : Bool) (tables : List Tree) (t : Tree) :
    (attachTables recursive tables t).shape
      = attachTables recursive (shapeItems tables) t.shape := by
  match t with
  | .object ((kind, .object fields) :: rest) =>
      simp only [attachTables, shape, shapeFields, shapeFields_put]
  | .object [] => simp only [attachTables, shape, shapeFields]
  | .object ((_, .null) :: _) | .object ((_, .bool _) :: _) | .object ((_, .number _) :: _)
  | .object ((_, .text _) :: _) | .object ((_, .list _) :: _) =>
      simp only [attachTables, shape, shapeFields]
  | .null | .bool _ | .number _ | .text _ | .list _ => simp only [attachTables, shape]

end ParseTree

end QueryAdvisor
