import QueryAdvisor.ParseTree.Build
import QueryAdvisor.Tree.Walk

/-!
# Marked objects

Of all objects of a parse tree only two kinds matter to what is looked for in
it: the wrapper of an operator and the wrapper of a named query. They are
recognised by their key, so this file fixes the two keys and says, for each
construct that a tree is built from, which marked objects its node holds.

Every node but those two passes on what its parts hold, in key order, and adds
nothing. That is what the lemmas below state, one for each construct, so that
an induction over the syntax never has to open a node.
-/

namespace QueryAdvisor

/-- The keys of the wrappers that are looked for. -/
def isLabel (key : String) : Bool :=
  key == "A_Expr" || key == "CommonTableExpr"

namespace Fields

/-- Whether an object has one of the keys. -/
def isMarked (fields : Fields) : Bool :=
  fields.any fun f => isLabel f.1

theorem isMarked_cons (key : String) (t : Tree) (rest : Fields) :
    isMarked ((key, t) :: rest) = (isLabel key || isMarked rest) := by
  rw [isMarked, List.any_cons, ← isMarked]

theorem isMarked_append (a b : Fields) : isMarked (a ++ b) = (isMarked a || isMarked b) := by
  rw [isMarked, List.any_append, ← isMarked, ← isMarked]

/-- A key that is not there has no value. -/
theorem get?_eq_none_of_not_isMarked {fields : Fields} {key : String}
    (hf : fields.isMarked = false) (hk : isLabel key = true) : fields.get? key = none := by
  induction fields with
  | nil => rw [get?]
  | cons f rest ih =>
      obtain ⟨k, t⟩ := f
      rw [isMarked_cons, Bool.or_eq_false_iff] at hf
      rw [get?, if_neg, ih hf.2]
      rintro rfl
      rw [hk] at hf
      exact absurd hf.1 (by simp)

end Fields

/-- Objects that are not marked may be left out of a search that passes them
over anyway. -/
theorem filterMap_filter_isMarked {α : Type} {f : Fields → Option α}
    (hf : ∀ fields : Fields, fields.isMarked = false → f fields = none) (l : List Fields) :
    (l.filter Fields.isMarked).filterMap f = l.filterMap f := by
  rw [List.filterMap_filter]
  refine congrArg (fun g => l.filterMap g) (funext fun fields => ?_)
  cases hm : fields.isMarked with
  | true => rw [if_pos rfl]
  | false => rw [hf fields hm, ite_self]

namespace Tree

/-- The marked objects of a tree, parents first. -/
def marked (t : Tree) : List Fields :=
  t.objects.filter Fields.isMarked

/-- The marked objects of a list of trees. -/
def markedItems (items : List Tree) : List Fields :=
  (objectsItems items).filter Fields.isMarked

/-- The marked objects under the fields of an object. -/
def markedFields (fields : Fields) : List Fields :=
  (objectsFields fields).filter Fields.isMarked

@[simp] theorem markedItems_nil : markedItems [] = [] := by
  rw [markedItems, objectsItems, List.filter_nil]

@[simp] theorem markedItems_cons (t : Tree) (rest : List Tree) :
    markedItems (t :: rest) = marked t ++ markedItems rest := by
  rw [markedItems, objectsItems, List.filter_append, ← marked, ← markedItems]

@[simp] theorem markedItems_append (a b : List Tree) :
    markedItems (a ++ b) = markedItems a ++ markedItems b := by
  induction a with
  | nil => rw [List.nil_append, markedItems_nil, List.nil_append]
  | cons t rest ih =>
      rw [List.cons_append, markedItems_cons, ih, markedItems_cons, List.append_assoc]

@[simp] theorem markedFields_nil : markedFields [] = [] := by
  rw [markedFields, objectsFields, List.filter_nil]

@[simp] theorem markedFields_cons (key : String) (t : Tree) (rest : Fields) :
    markedFields ((key, t) :: rest) = marked t ++ markedFields rest := by
  rw [markedFields, objectsFields, List.filter_append, ← marked, ← markedFields]

@[simp] theorem markedFields_append (a b : Fields) :
    markedFields (a ++ b) = markedFields a ++ markedFields b := by
  induction a with
  | nil => rw [List.nil_append, markedFields_nil, List.nil_append]
  | cons f rest ih =>
      obtain ⟨key, t⟩ := f
      rw [List.cons_append, markedFields_cons, ih, markedFields_cons, List.append_assoc]

@[simp] theorem marked_null : marked .null = [] := rfl

@[simp] theorem marked_bool (b : Bool) : marked (.bool b) = [] := rfl

@[simp] theorem marked_number (n : Numeral) : marked (.number n) = [] := rfl

@[simp] theorem marked_text (s : String) : marked (.text s) = [] := rfl

@[simp] theorem marked_nat (n : Nat) : marked (.nat n) = [] := rfl

@[simp] theorem marked_list (items : List Tree) : marked (.list items) = markedItems items := by
  rw [marked, objects, ← markedItems]

/-- An object that is not marked passes on what lies under it. -/
theorem marked_object {fields : Fields} (h : fields.isMarked = false) :
    marked (.object fields) = markedFields fields := by
  rw [marked, objects, List.filter_cons_of_neg (by rw [h]; simp), ← markedFields]

theorem marked_object_of_isMarked {fields : Fields} (h : fields.isMarked = true) :
    marked (.object fields) = fields :: markedFields fields := by
  rw [marked, objects, List.filter_cons_of_pos h, ← markedFields]

end Tree

namespace ParseTree

open Sql QueryAdvisor.Tree

/-! ## Fields that may be absent -/

theorem isMarked_optionalField {key : String} (hk : isLabel key = false) (t : Option Tree) :
    Fields.isMarked (optionalField key t) = false := by
  cases t with
  | none => rfl
  | some t => rw [optionalField, Fields.isMarked_cons, hk]; rfl

theorem isMarked_listField {key : String} (hk : isLabel key = false) (items : List Tree) :
    Fields.isMarked (listField key items) = false := by
  rw [listField]
  split
  · rfl
  · rw [Fields.isMarked_cons, hk]; rfl

@[simp] theorem markedFields_optionalField (key : String) (t : Option Tree) :
    markedFields (optionalField key t) = markedItems t.toList := by
  cases t with
  | none => rfl
  | some t => simp only [optionalField, markedFields_cons, markedFields_nil, Option.toList_some,
      markedItems_cons, markedItems_nil]

@[simp] theorem markedFields_listField (key : String) (items : List Tree) :
    markedFields (listField key items) = markedItems items := by
  cases items with
  | nil => rfl
  | cons t rest => simp [listField]

@[simp] theorem markedFields_aliasFields (label : Option Ident) :
    markedFields (aliasFields label) = [] := by
  cases label <;> rfl

theorem isMarked_aliasFields (label : Option Ident) :
    Fields.isMarked (aliasFields label) = false := by
  cases label <;> rfl

/-! ## Nodes -/

/-- A node passes on what its fields hold, unless it is a wrapper itself. -/
theorem marked_node {kind : String} {fields : Fields} (hk : isLabel kind = false)
    (hf : Fields.isMarked fields = false) :
    (node kind fields).marked = markedFields fields := by
  have hw : Fields.isMarked [(kind, .object fields)] = false := by
    rw [Fields.isMarked_cons, hk]; rfl
  rw [node, marked_object hw, markedFields_cons, marked_object hf, markedFields_nil,
    List.append_nil]

/-- A wrapper comes before what its fields hold. -/
theorem marked_node_of_isLabel {kind : String} {fields : Fields} (hk : isLabel kind = true)
    (hf : Fields.isMarked fields = false) :
    (node kind fields).marked = [(kind, .object fields)] :: markedFields fields := by
  have hw : Fields.isMarked [(kind, .object fields)] = true := by
    rw [Fields.isMarked_cons, hk]; rfl
  rw [node, marked_object_of_isMarked hw, markedFields_cons, marked_object hf,
    markedFields_nil, List.append_nil]

@[simp] theorem marked_segment (s : String) : (segment s).marked = [] := by
  rw [segment, marked_node rfl rfl, markedFields_cons, marked_text, markedFields_nil]; rfl

@[simp] theorem markedItems_identSegment (parts : List Ident) :
    markedItems (parts.map identSegment) = [] := by
  induction parts with
  | nil => rfl
  | cons i rest ih => rw [List.map_cons, markedItems_cons, ih, identSegment, marked_segment]; rfl

@[simp] theorem marked_columnRef (parts : List Ident) : (columnRef parts).marked = [] := by
  rw [columnRef, marked_node rfl rfl, markedFields_cons, marked_list, markedItems_identSegment,
    markedFields_nil]
  rfl

@[simp] theorem marked_starNode : starNode.marked = [] := by
  rw [starNode, marked_node rfl rfl, markedFields_nil]

@[simp] theorem marked_boolExpr (op : String) (args : List Tree) :
    (boolExpr op args).marked = markedItems args := by
  rw [boolExpr, marked_node rfl rfl]
  simp only [markedFields_cons, marked_text, marked_list, markedFields_nil, List.nil_append,
    List.append_nil]

/-- The fields of an operator. -/
def operatorFields (kind name : String) (left : Option Tree) (right : Tree) : Fields :=
  [("kind", .text kind), ("name", .list [segment name])] ++ optionalField "lexpr" left
    ++ [("rexpr", right)]

/-- An operator is met before its operands, and they from left to right. -/
@[simp] theorem marked_operatorNode (kind name : String) (left : Option Tree) (right : Tree) :
    (operatorNode kind name left right).marked
      = [("A_Expr", .object (operatorFields kind name left right))]
          :: (markedItems left.toList ++ right.marked) := by
  have hf : Fields.isMarked (operatorFields kind name left right) = false := by
    rw [operatorFields, Fields.isMarked_append, Fields.isMarked_append,
      isMarked_optionalField rfl]
    rfl
  rw [operatorNode, ← operatorFields, marked_node_of_isLabel rfl hf, operatorFields]
  simp only [markedFields_append, markedFields_cons, marked_text, marked_list, markedItems_cons,
    marked_segment, markedItems_nil, markedFields_nil, markedFields_optionalField,
    List.nil_append, List.append_nil]

@[simp] theorem marked_nullTest (inner : Tree) (test : String) :
    (nullTest inner test).marked = inner.marked := by
  rw [nullTest, marked_node rfl rfl]
  simp only [markedFields_cons, marked_text, markedFields_nil, List.append_nil]

@[simp] theorem marked_typeCast (inner : Tree) (type : String) :
    (typeCast inner type).marked = inner.marked := by
  rw [typeCast, marked_node rfl rfl, markedFields_cons, markedFields_cons, marked_object rfl]
  simp only [markedFields_cons, marked_list, markedItems_cons, marked_segment, markedItems_nil,
    markedFields_nil, List.append_nil]

@[simp] theorem marked_subLink (kind : String) (test : Option Tree) (query : Tree) :
    (subLink kind test query).marked = markedItems test.toList ++ query.marked := by
  have hf : Fields.isMarked ([("subLinkType", .text kind)] ++ optionalField "testexpr" test
      ++ [("subselect", query)]) = false := by
    rw [Fields.isMarked_append, Fields.isMarked_append, isMarked_optionalField rfl]
    rfl
  rw [subLink, marked_node rfl hf]
  simp only [markedFields_append, markedFields_cons, marked_text, markedFields_nil,
    markedFields_optionalField, List.nil_append, List.append_nil]

@[simp] theorem marked_negatedIf (negated : Bool) (t : Tree) :
    (negatedIf negated t).marked = t.marked := by
  rw [negatedIf]
  split
  · rw [marked_boolExpr, markedItems_cons, markedItems_nil, List.append_nil]
  · rfl

/-- No literal holds anything. -/
@[simp] theorem marked_literalNode (value : Literal) : (literalNode value).marked = [] := by
  cases value with
  | number digits =>
      rw [literalNode, numberConst]
      split
      · split <;> rfl
      · rfl
  | singleQuoted _ | escaped _ | national _ | dollarQuoted _ | unicode _ | hex _ | bool _ | null
  | placeholder _ => rfl

@[simp] theorem marked_callNode (name : List Ident) (star : Bool) (args : List Tree) :
    (callNode name star args).marked = markedItems args := by
  rw [callNode, ← listField]
  have hf : Fields.isMarked ([("funcname", .list (name.map identSegment))]
      ++ (if star then [("agg_star", .bool true)] else []) ++ listField "args" args) = false := by
    rw [Fields.isMarked_append, isMarked_listField rfl]
    cases star <;> rfl
  rw [marked_node rfl hf, markedFields_append, markedFields_append, markedFields_listField]
  cases star <;>
    simp only [markedFields_cons, marked_list, markedItems_identSegment, markedFields_nil,
      marked_bool, Bool.false_eq_true, if_false, if_true, List.nil_append]

@[simp] theorem marked_joinNode (kind : JoinKind) (left right : Tree) (condition : Option Tree) :
    (joinNode kind left right condition).marked
      = left.marked ++ right.marked
          ++ markedItems (if keepsCondition kind then condition else none).toList := by
  have hf : Fields.isMarked ([("jointype", .text (joinType kind)), ("larg", left),
      ("rarg", right)] ++ optionalField "quals"
        (if keepsCondition kind then condition else none)) = false := by
    rw [Fields.isMarked_append, isMarked_optionalField rfl]
    rfl
  rw [joinNode, marked_node rfl hf]
  simp only [markedFields_append, markedFields_cons, marked_text, markedFields_nil,
    markedFields_optionalField, List.nil_append, List.append_nil]

@[simp] theorem marked_targetNode (label : Option Ident) (value : Tree) :
    (targetNode label value).marked = value.marked := by
  cases label with
  | none =>
      rw [targetNode, marked_node rfl rfl]
      simp [optionalField]
  | some i =>
      rw [targetNode, marked_node rfl rfl]
      simp [optionalField]

theorem isMarked_rangeVarFields (name : List Ident) :
    Fields.isMarked (rangeVarFields name) = false := by
  rw [rangeVarFields]
  split <;> rfl

@[simp] theorem markedFields_rangeVarFields (name : List Ident) :
    markedFields (rangeVarFields name) = [] := by
  rw [rangeVarFields]
  split <;> rfl

@[simp] theorem marked_rangeVar (name : List Ident) (label : Option Ident) :
    (node "RangeVar" (rangeVarFields name ++ aliasFields label)).marked = [] := by
  have hf : Fields.isMarked (rangeVarFields name ++ aliasFields label) = false := by
    rw [Fields.isMarked_append, isMarked_rangeVarFields, isMarked_aliasFields]; rfl
  rw [marked_node rfl hf, markedFields_append, markedFields_rangeVarFields,
    markedFields_aliasFields, List.append_nil]

@[simp] theorem marked_rangeSubselect (query : Tree) (label : Option Ident) :
    (node "RangeSubselect" ([("subquery", query)] ++ aliasFields label)).marked
      = query.marked := by
  have hf : Fields.isMarked ([("subquery", query)] ++ aliasFields label) = false := by
    rw [Fields.isMarked_append, isMarked_aliasFields]; rfl
  rw [marked_node rfl hf, markedFields_append, markedFields_aliasFields, markedFields_cons,
    markedFields_nil, List.append_nil, List.append_nil]

theorem marked_starRef (parts : List Ident) :
    (node "ColumnRef" [("fields", .list (parts.map identSegment ++ [starNode]))]).marked = [] := by
  rw [marked_node rfl rfl, markedFields_cons, marked_list, markedItems_append,
    markedItems_identSegment, markedItems_cons, marked_starNode]
  rfl

theorem isMarked_selectFields (items sources : List Tree) (condition having : Option Tree) :
    Fields.isMarked (listField "targetList" items ++ listField "fromClause" sources
      ++ optionalField "whereClause" condition ++ optionalField "havingClause" having) = false := by
  rw [Fields.isMarked_append, Fields.isMarked_append, Fields.isMarked_append,
    isMarked_listField rfl, isMarked_listField rfl, isMarked_optionalField rfl,
    isMarked_optionalField rfl]
  rfl

theorem marked_select (items sources : List Tree) (condition having : Option Tree) :
    (node "SelectStmt"
        (listField "targetList" items ++ listField "fromClause" sources
          ++ optionalField "whereClause" condition ++ optionalField "havingClause" having)).marked
      = markedItems items ++ markedItems sources ++ markedItems condition.toList
          ++ markedItems having.toList := by
  rw [marked_node rfl (isMarked_selectFields ..)]
  simp only [markedFields_append, markedFields_listField, markedFields_optionalField]

theorem marked_insertNode (source : Option Tree) :
    (insertNode source).marked = markedItems source.toList := by
  rw [insertNode, marked_node rfl (isMarked_optionalField rfl _), markedFields_optionalField]

theorem isMarked_updateFields (target condition : Option Tree) :
    Fields.isMarked (optionalField "relation" target
      ++ optionalField "whereClause" condition) = false := by
  rw [Fields.isMarked_append, isMarked_optionalField rfl, isMarked_optionalField rfl]
  rfl

theorem marked_updateNode (target condition : Option Tree) :
    (updateNode target condition).marked
      = markedItems target.toList ++ markedItems condition.toList := by
  rw [updateNode, marked_node rfl (isMarked_updateFields ..), markedFields_append,
    markedFields_optionalField, markedFields_optionalField]

end ParseTree

end QueryAdvisor
