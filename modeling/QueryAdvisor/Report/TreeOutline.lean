import QueryAdvisor.Json.Printer
import QueryAdvisor.Report.Outline
import QueryAdvisor.Text.Quoted

/-!
# Trees as outlines

The outline of a tree has a node for each field, in the order of the keys, and
for each item, labelled with its index. A scalar is shown behind its label.
Nothing deeper than a given number of levels below the root is shown.
-/

namespace QueryAdvisor

/-- Labelled outlines in the order of their labels. -/
def sortedByKey (entries : List (String × Outline)) : List (String × Outline) :=
  entries.mergeSort fun a b => decide (a.1 ≤ b.1)

/-- The label of an item of a list. -/
def indexLabel (index : Nat) : String :=
  "[" ++ String.ofList (Nat.toDigits 10 index) ++ "]"

mutual

/-- The outline of a tree down to some levels below its root. -/
def treeOutline (label : String) (depth : Nat) : Tree → Outline
  | .object fields =>
      match depth with
      | 0 => .leaf label
      | depth + 1 => .node label ((sortedByKey (fieldOutlines depth fields)).map Prod.snd)
  | .list items =>
      match depth with
      | 0 => .leaf label
      | depth + 1 => .node label (itemOutlines depth 0 items)
  | .text s => .leaf (label ++ ": " ++ Text.quoted s)
  | .null => .leaf (label ++ ": " ++ Tree.toJson .null)
  | .bool b => .leaf (label ++ ": " ++ Tree.toJson (.bool b))
  | .number n => .leaf (label ++ ": " ++ Tree.toJson (.number n))

/-- The outlines of the items of a list, the first of which has a given index. -/
def itemOutlines (depth index : Nat) : List Tree → List Outline
  | [] => []
  | t :: rest => treeOutline (indexLabel index) depth t :: itemOutlines depth (index + 1) rest

/-- The outlines of the fields of an object with their keys. -/
def fieldOutlines (depth : Nat) : List (String × Tree) → List (String × Outline)
  | [] => []
  | (key, t) :: rest => (key, treeOutline key depth t) :: fieldOutlines depth rest

end

end QueryAdvisor
