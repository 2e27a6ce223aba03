import QueryAdvisor.Proofs.PlanListing
import QueryAdvisor.Proofs.TextLines

/-!
# A drawing tells its outline

An outline is drawn from a stack. `Draws` is one run of the stack, line by line;
from every stack there is exactly one, and what it draws are the recursive
drawings of the entries from the top down.

That the outline can be read back from the text is shown in three steps. The text
tells its lines, as long as no label breaks a line. A line tells its row, that is,
which of the ancestors are last among their siblings, whether the node itself is,
and its label: bars, blanks and connectors are all four characters wide and each
begins in its own way, so the label begins behind the first connector, whatever it
looks like itself. And the rows tell the outline: below a node stand the rows that
are deeper, up to the first that is not.
-/

namespace QueryAdvisor.Outline

/-! ## A run of the stack -/

/-- The recursive drawing of an entry of the stack. -/
def Pending.lines (p : Pending) : List String :=
  branchLines p.indent p.last p.node

mutual

theorem length_branchLines (indent : String) (last : Bool) (o : Outline) :
    (branchLines indent last o).length = o.size := by
  match o with
  | .node label children =>
      rw [branchLines, List.length_cons, length_branchesLines (deeper indent last) children, size,
        Nat.add_comm]

theorem length_branchesLines (indent : String) (children : List Outline) :
    (branchesLines indent children).length = sizes children := by
  match children with
  | [] => rw [branchesLines, List.length_nil, sizes]
  | o :: rest =>
      rw [branchesLines, List.length_append, length_branchLines indent rest.isEmpty o,
        length_branchesLines indent rest, sizes]

end

/-- What a line says about its node. -/
@[ext]
structure Row where
  /-- Whether each of the ancestors is the last among its siblings, outermost first
  and without the root. -/
  above : List Bool
  last : Bool
  label : String

/-- The indentation under some ancestors. -/
def indentUnder (above : List Bool) : String :=
  above.foldl deeper rootIndent

def Row.text (r : Row) : String :=
  line (indentUnder r.above) r.last r.label

theorem deeper_indentUnder (above : List Bool) (last : Bool) :
    deeper (indentUnder above) last = indentUnder (above ++ [last]) := by
  rw [indentUnder, indentUnder, List.foldl_append, List.foldl_cons, List.foldl_nil]

/-- The four characters in front of a label. -/
def mark (last : Bool) : List Char :=
  if last then ['└', '─', '─', ' '] else ['├', '─', '─', ' ']

mutual

/-- The rows of a node that is not the root and of its descendants. -/
def branchRows (above : List Bool) (last : Bool) : Outline → List Row
  | .node label children => ⟨above, last, label⟩ :: branchesRows (above ++ [last]) children

/-- The rows of siblings. -/
def branchesRows (above : List Bool) : List Outline → List Row
  | [] => []
  | o :: rest => branchRows above rest.isEmpty o ++ branchesRows above rest

end

mutual

theorem branchLines_eq_map_text (above : List Bool) (last : Bool) (o : Outline) :
    branchLines (indentUnder above) last o = (branchRows above last o).map Row.text := by
  match o with
  | .node label children =>
      rw [branchLines, branchRows, List.map_cons, Row.text, deeper_indentUnder,
        branchesLines_eq_map_text (above ++ [last]) children]

theorem branchesLines_eq_map_text (above : List Bool) (children : List Outline) :
    branchesLines (indentUnder above) children = (branchesRows above children).map Row.text := by
  match children with
  | [] => rw [branchesLines, branchesRows, List.map_nil]
  | o :: rest =>
      rw [branchesLines, branchesRows, List.map_append,
        branchLines_eq_map_text above rest.isEmpty o, branchesLines_eq_map_text above rest]

end

mutual

theorem map_label_branchRows (above : List Bool) (last : Bool) (o : Outline) :
    (branchRows above last o).map Row.label = o.listing.map Prod.fst := by
  match o with
  | .node label children =>
      rw [branchRows, listing, List.map_cons, List.map_cons,
        map_label_branchesRows (above ++ [last]) children]

theorem map_label_branchesRows (above : List Bool) (children : List Outline) :
    (branchesRows above children).map Row.label = (listings children).map Prod.fst := by
  match children with
  | [] => rw [branchesRows, listings, List.map_nil, List.map_nil]
  | o :: rest =>
      rw [branchesRows, listings, List.map_append, List.map_append,
        map_label_branchRows above rest.isEmpty o, map_label_branchesRows above rest]

end

/-- The first of some rows, if there is any, has fewer ancestors than so many. -/
def Shallower (count : Nat) (rows : List Row) : Prop :=
  ∀ r ∈ rows.head?, r.above.length < count

theorem Shallower.succ {count : Nat} {rows : List Row} (h : Shallower count rows) :
    Shallower (count + 1) rows :=
  fun r hr => Nat.lt_succ_of_lt (h r hr)

theorem head?_branchesRows_cons (above : List Bool) (o : Outline) (rest : List Outline)
    (rows : List Row) :
    (branchesRows above (o :: rest) ++ rows).head? = some ⟨above, rest.isEmpty, o.label⟩ := by
  obtain ⟨label, children⟩ := o
  rw [branchesRows, branchRows, List.cons_append, List.cons_append, List.head?_cons, Outline.label]

/-- The sibling that follows is no deeper than the node before it. -/
theorem shallower_branchesRows_append {above : List Bool} {rows : List Row}
    (h : Shallower above.length rows) (siblings : List Outline) :
    Shallower (above.length + 1) (branchesRows above siblings ++ rows) := by
  cases siblings with
  | nil =>
      rw [branchesRows, List.nil_append]
      exact h.succ
  | cons o rest =>
      intro r hr
      rw [head?_branchesRows_cons, Option.mem_some_iff] at hr
      rw [← hr]
      exact Nat.lt_succ_self _

theorem ne_branchesRows_cons_append {above : List Bool} {rows : List Row}
    (h : Shallower above.length rows) (o : Outline) (rest : List Outline) (more : List Row) :
    rows ≠ branchesRows above (o :: rest) ++ more := by
  rintro rfl
  exact Nat.lt_irrefl _ (h _ (head?_branchesRows_cons above o rest more))

mutual

/-- The rows of a node can be told from what follows them. -/
theorem branchRows_append_inj {above : List Bool} {last last' : Bool} (a b : Outline)
    {s t : List Row} (hs : Shallower (above.length + 1) s) (ht : Shallower (above.length + 1) t)
    (h : branchRows above last a ++ s = branchRows above last' b ++ t) : a = b ∧ s = t := by
  match a, b with
  | .node label children, .node label' children' =>
      rw [branchRows, branchRows, List.cons_append, List.cons_append] at h
      obtain ⟨hrow, hrest⟩ := List.cons.inj h
      obtain ⟨-, rfl, rfl⟩ := Row.mk.inj hrow
      -- the children are one level deeper, so what is too shallow for them ends the subtree
      have hlength : (above ++ [last]).length = above.length + 1 := List.length_append
      rw [← hlength] at hs ht
      obtain ⟨rfl, rfl⟩ := branchesRows_append_inj children children' hs ht hrest
      exact ⟨rfl, rfl⟩

theorem branchesRows_append_inj {above : List Bool} (as bs : List Outline) {s t : List Row}
    (hs : Shallower above.length s) (ht : Shallower above.length t)
    (h : branchesRows above as ++ s = branchesRows above bs ++ t) : as = bs ∧ s = t := by
  match as, bs with
  | [], [] =>
      rw [branchesRows, List.nil_append, List.nil_append] at h
      exact ⟨rfl, h⟩
  | [], b :: bs => exact absurd h (ne_branchesRows_cons_append hs b bs t)
  | a :: as, [] => exact absurd h.symm (ne_branchesRows_cons_append ht a as s)
  | a :: as, b :: bs =>
      rw [branchesRows, branchesRows, List.append_assoc, List.append_assoc] at h
      obtain ⟨rfl, hrest⟩ := branchRows_append_inj a b (shallower_branchesRows_append hs as)
        (shallower_branchesRows_append ht bs) h
      obtain ⟨rfl, rfl⟩ := branchesRows_append_inj as bs hs ht hrest
      exact ⟨rfl, rfl⟩

end

/-! ## The text -/

/-- No label of an outline breaks its line. -/
def OneLine (o : Outline) : Prop :=
  ∀ entry ∈ o.listing, '\n' ∉ entry.1.toList

end QueryAdvisor.Outline
