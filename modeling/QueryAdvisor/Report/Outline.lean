/-!
# Outlines

An outline is a labelled tree that can be drawn: the root label on a line of
its own, then each descendant behind a connector, under the bars and blanks
of its ancestors. `Outline.lines` is the recursive drawing. `Outline.render`
draws from a stack of what is still to be drawn, so that an outline of any
depth can be drawn; every entry of the stack carries the text in front of its
connector and whether it is the last among its siblings.
-/

namespace QueryAdvisor

/-- A labelled tree. -/
inductive Outline where
  | node (label : String) (children : List Outline)
deriving Inhabited, Repr

namespace Outline

def label : Outline → String
  | .node label _ => label

def children : Outline → List Outline
  | .node _ children => children

/-- An outline without children. -/
def leaf (label : String) : Outline :=
  .node label []

mutual

/-- The number of nodes of an outline. -/
def size : Outline → Nat
  | .node _ children => 1 + sizes children

/-- The number of nodes of some outlines. -/
def sizes : List Outline → Nat
  | [] => 0
  | o :: rest => size o + sizes rest

end

theorem size_eq (o : Outline) : o.size = 1 + sizes o.children := by
  cases o
  simp [size, children]

/-- The connector in front of a label. -/
def connector (last : Bool) : String :=
  if last then "└──" else "├──"

/-- What stands in front of the descendants of a node. -/
def deeper (indent : String) (last : Bool) : String :=
  indent ++ (if last then "    " else "│   ")

/-- The line of a node that is not the root. -/
def line (indent : String) (last : Bool) (label : String) : String :=
  indent ++ connector last ++ " " ++ label

mutual

/-- The lines of a node that is not the root and of its descendants. -/
def branchLines (indent : String) (last : Bool) : Outline → List String
  | .node label children =>
      line indent last label :: branchesLines (deeper indent last) children

/-- The lines of siblings. -/
def branchesLines (indent : String) : List Outline → List String
  | [] => []
  | o :: rest => branchLines indent rest.isEmpty o ++ branchesLines indent rest

end

/-- The indentation of the root's children. -/
def rootIndent : String := "    "

/-- The lines of an outline. -/
def lines (o : Outline) : List String :=
  o.label :: branchesLines rootIndent o.children

/-- A node that is still to be drawn. -/
structure Pending where
  node : Outline
  indent : String
  last : Bool

/-- The siblings under an indentation. -/
def pendingSiblings (indent : String) : List Outline → List Pending
  | [] => []
  | o :: rest => ⟨o, indent, rest.isEmpty⟩ :: pendingSiblings indent rest

/-- The number of nodes that are still to be drawn. -/
def pendingSize : List Pending → Nat
  | [] => 0
  | p :: rest => p.node.size + pendingSize rest

theorem pendingSize_append (a b : List Pending) :
    pendingSize (a ++ b) = pendingSize a + pendingSize b := by
  induction a with
  | nil => simp only [List.nil_append, pendingSize, Nat.zero_add]
  | cons p rest ih => simp only [List.cons_append, pendingSize, ih, Nat.add_assoc]

theorem pendingSize_siblings (indent : String) (children : List Outline) :
    pendingSize (pendingSiblings indent children) = sizes children := by
  induction children with
  | nil => rfl
  | cons o rest ih =>
      simp only [pendingSize, pendingSiblings, ih, sizes]

/-- Draws what is pending behind the lines already drawn (latest first). -/
def draw (pending : List Pending) (drawn : List String) : List String :=
  match pending with
  | [] => drawn.reverse
  | p :: rest =>
      draw (pendingSiblings (deeper p.indent p.last) p.node.children ++ rest)
        (line p.indent p.last p.node.label :: drawn)
termination_by pendingSize pending
decreasing_by
  have h := pendingSize_siblings (deeper p.indent p.last) p.node.children
  have hs := p.node.size_eq
  simp only [pendingSize, pendingSize_append, h, hs]
  omega

/-- A line and its end. -/
def withNewline (line : String) : String :=
  line ++ "\n"

/-- An outline as text, every line ended. -/
def render (o : Outline) : String :=
  String.join ((o.label :: draw (pendingSiblings rootIndent o.children) []).map withNewline)

end Outline

end QueryAdvisor
