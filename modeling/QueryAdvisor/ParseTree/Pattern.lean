import QueryAdvisor.Text.Case
import QueryAdvisor.Tree.Walk

/-!
# Recognising parts of a parse tree

In a parse tree every construct is an object with one key, the name of the
construct (`ColumnRef`, `A_Const`, `FuncCall`, `A_Expr`). Each recogniser asks
for one shape and answers `none` for any other.
-/

namespace QueryAdvisor.ParseTree

/-- The text of one segment of a name. -/
def segment? (t : Tree) : Option String :=
  (t.object? "String").bind (Fields.text? · "sval")

/-- The last part of the name of a column. -/
def columnName? (t : Tree) : Option String := do
  let column ← t.object? "ColumnRef"
  let parts ← Fields.list? column "fields"
  let last ← parts.getLast?
  segment? last

/-- The text of a text constant. -/
def constText? (t : Tree) : Option String := do
  let constant ← t.object? "A_Const"
  let value ← Fields.object? constant "sval"
  Fields.text? value "sval"

/-- A function call. -/
structure Call where
  /-- The last segment of the function's name, in lower case. -/
  name : String
  args : List Tree

/-- The function call that a node is. A call without arguments has none. -/
def call? (t : Tree) : Option Call := do
  let call ← t.object? "FuncCall"
  let parts ← Fields.list? call "funcname"
  let last ← parts.getLast?
  let name ← segment? last
  pure ⟨Text.lowered name, (Fields.list? call "args").getD []⟩

/-- The fields of an operator applied to its operands. -/
structure Comparison where
  fields : Fields

/-- The kind of a `LIKE` comparison. -/
def likeKind : String := "AEXPR_LIKE"

namespace Comparison

/-- The comparison that an object is. -/
def ofFields? (fields : Fields) : Option Comparison :=
  (Fields.object? fields "A_Expr").map Comparison.mk

def kind? (c : Comparison) : Option String :=
  Fields.text? c.fields "kind"

def isLike (c : Comparison) : Bool :=
  c.kind? == some likeKind

def left? (c : Comparison) : Option Tree :=
  Fields.get? c.fields "lexpr"

def right? (c : Comparison) : Option Tree :=
  Fields.get? c.fields "rexpr"

/-- The operands that are there, left before right. -/
def operands (c : Comparison) : List Tree :=
  c.left?.toList ++ c.right?.toList

end Comparison

/-- Every comparison of a tree, in the order of its objects. -/
def comparisons (t : Tree) : List Comparison :=
  t.walk.filterMap Comparison.ofFields?

end QueryAdvisor.ParseTree
