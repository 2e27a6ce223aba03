import QueryAdvisor.Proofs.RecordRead
import QueryAdvisor.Response

/-!
# Responses and their texts

A response is written as one object, and it comes back from both layouts. Two
things are lost on the way. A tree that is null cannot be told from no tree.
And the reader opens 127 levels of lists and objects, of which the response
itself takes one, so a tree of more than 126 levels makes the whole text
unreadable.

The proof never looks at a layout: it is about every spelling of the response
as a tree.
-/

namespace QueryAdvisor

open Json

theorem Suggestion.takes {s : Suggestion} {v : List Char} (h : Spells s.toTree v) {bound : Nat}
    (hbound : s.toTree.size ≤ bound) : Takes (Suggestion.shape.reader bound) v (.ok s) := by
  have hsize : s.toTree.size = 5 := by simp only [toTree, Tree.size, Tree.sizeFields]
  rw [toTree] at h
  cases h with
  | object hes hcs =>
      obtain ⟨title, _, rfl, htitle, hes⟩ := hes.cons_inv
      obtain ⟨description, _, rfl, hdescription, hes⟩ := hes.cons_inv
      obtain ⟨recommendation, _, rfl, hrecommendation, hes⟩ := hes.cons_inv
      obtain ⟨severity, _, rfl, hseverity, hes⟩ := hes.cons_inv
      cases hes
      have hchoice : Severity.all.find? (·.1 = s.severity.name)
          = some (s.severity.name, s.severity) := by
        cases s.severity <;> rfl
      have hfields : 4 < bound := by omega
      refine Shape.takes_record
        (d := ⟨some s.title, some s.description, some s.recommendation, some s.severity⟩) ?_ rfl hcs
        hfields
      refine .read rfl rfl ((takes_text htitle.text_inv).bind_pure _) ?_
      refine .read rfl rfl ((takes_text hdescription.text_inv).bind_pure _) ?_
      refine .read rfl rfl ((takes_text hrecommendation.text_inv).bind_pure _) ?_
      exact .read rfl rfl ((takes_variant hchoice hseverity.text_inv).bind_pure _) .done

namespace Response

/-- The trees that a response holds. -/
def trees (r : Response) : List Tree :=
  r.ast.toList ++ r.plan.toList

/-- What is left of a tree when null counts as no tree. -/
def present : Option Tree → Option Tree
  | some .null => none
  | tree => tree

/-- A response without the trees that are null. -/
def withoutNulls (r : Response) : Response :=
  { r with ast := present r.ast, plan := present r.plan }

/-- The levels of lists and objects that a tree of a response may have. -/
def maxTreeDepth : Nat := 126

/-- What is read of a tree: nothing of null, and nothing too deep. -/
def readTree : Option Tree → Except Cause (Option Tree)
  | none | some .null => .ok none
  | some t => (t.within maxTreeDepth).map some

theorem takes_tree {tree : Option Tree} {v : List Char} (h : Spells (.ofOption tree) v)
    (hexact : ∀ t ∈ tree, t.Exact) {bound : Nat} (hbound : (Tree.ofOption tree).size ≤ bound) :
    Takes (optional (value bound (maxDepth - 1))) v (readTree tree) := by
  rw [readTree.eq_def]
  split
  next =>
    cases h
    exact takes_optional_null
  next =>
    cases h
    exact takes_optional_null
  next t hnull =>
    obtain ⟨c, cs, hv, hspace, -, hn⟩ := Spells.head h
    have hstart : c ≠ 'n' := fun hc => hnull (hn hc)
    exact takes_optional hv hspace hstart (takes_value h (hexact t rfl) hbound maxTreeDepth)

theorem takes_each {suggestions : List Suggestion} {vs : List (List Char)}
    (h : SpellsItems (suggestions.map Suggestion.toTree) vs) {bound : Nat}
    (hbound : Tree.sizeItems (suggestions.map Suggestion.toTree) ≤ bound) :
    List.Forall₂ (fun v r => Starts v ∧ Takes (Suggestion.shape.reader bound) v r) vs
      (suggestions.map Except.ok) := by
  induction suggestions generalizing vs with
  | nil =>
      cases h
      exact .nil
  | cons s rest ih =>
      rw [List.map_cons, Tree.sizeItems] at hbound
      cases h with
      | cons hs h => exact .cons ⟨hs.starts, Suggestion.takes hs (by omega)⟩ (ih h (by omega))

theorem inOrder_map_ok (suggestions : List Suggestion) :
    inOrder (suggestions.map Except.ok) = .ok suggestions := by
  induction suggestions with
  | nil => rfl
  | cons s rest ih => rw [List.map_cons, inOrder, ih, Except.map]

theorem takes_suggestions {suggestions : List Suggestion} {v : List Char}
    (h : Spells (.list (suggestions.map Suggestion.toTree)) v) {bound : Nat}
    (hbound : (Tree.list (suggestions.map Suggestion.toTree)).size ≤ bound) :
    Takes (listOf bound (Suggestion.shape.reader bound)) v (.ok suggestions) := by
  rw [Tree.size] at hbound
  cases h with
  | list hvs hcs =>
      have hsize : Tree.sizeItems (suggestions.map Suggestion.toTree) < bound := by omega
      have hlength := Nat.lt_of_le_of_lt hvs.length_le_size hsize
      have hlist := takes_listOf (takes_each hvs (Nat.le_of_lt hsize)) hcs hlength
      rwa [inOrder_map_ok] at hlist

/-- What is read of a response: its trees one after the other, and then all of
its suggestions. -/
def readBack (r : Response) : Except Cause Response :=
  match readTree r.ast, readTree r.plan with
  | .error cause, _ => .error cause
  | .ok _, .error cause => .error cause
  | .ok ast, .ok plan => .ok { ast, plan, suggestions := r.suggestions }

theorem takes_response {r : Response} {v : List Char} (h : Spells r.toTree v)
    (hexact : ∀ t ∈ r.trees, t.Exact) {bound : Nat} (hbound : r.toTree.size ≤ bound) :
    Takes ((shape bound).reader bound) v r.readBack := by
  rw [toTree, Tree.size, Tree.sizeFields, Tree.sizeFields, Tree.sizeFields, Tree.sizeFields]
    at hbound
  have hlist := (Tree.list (r.suggestions.map Suggestion.toTree)).size_pos
  have hastSize := (Tree.ofOption r.ast).size_pos
  have hplanSize := (Tree.ofOption r.plan).size_pos
  have hfields : 3 < bound := by omega
  rw [toTree] at h
  cases h with
  | object hes hcs =>
      obtain ⟨ast, _, rfl, hast, hes⟩ := hes.cons_inv
      obtain ⟨plan, _, rfl, hplan, hes⟩ := hes.cons_inv
      obtain ⟨suggestions, _, rfl, hsuggestions, hes⟩ := hes.cons_inv
      cases hes
      have hast := takes_tree hast
        (fun t ht => hexact t (List.mem_append_left _ (Option.mem_toList.mpr ht)))
        (show _ ≤ bound by omega)
      have hplan := takes_tree hplan
        (fun t ht => hexact t (List.mem_append_right _ (Option.mem_toList.mpr ht)))
        (show _ ≤ bound by omega)
      have hsuggestions := takes_suggestions hsuggestions (show _ ≤ bound by omega)
      rw [readBack]
      cases hreadAst : readTree r.ast with
      | error cause =>
          rw [hreadAst] at hast
          exact Shape.takes_record_error (.refused rfl rfl (hast.bind_pure _)) hcs hfields
      | ok a =>
          rw [hreadAst] at hast
          cases hreadPlan : readTree r.plan with
          | error cause =>
              rw [hreadPlan] at hplan
              refine Shape.takes_record_error ?_ hcs hfields
              exact .read rfl rfl (hast.bind_pure _) (.refused rfl rfl (hplan.bind_pure _))
          | ok p =>
              rw [hreadPlan] at hplan
              refine Shape.takes_record (d := ⟨some a, some p, some r.suggestions⟩) ?_ rfl hcs hfields
              refine .read rfl rfl (hast.bind_pure _) (.read rfl rfl (hplan.bind_pure _) ?_)
              exact .read rfl rfl (hsuggestions.bind_pure _) .done

theorem readTree_of_shallow {tree : Option Tree} (h : ∀ t ∈ tree, t.height ≤ maxTreeDepth) :
    readTree tree = .ok (present tree) := by
  rw [readTree.eq_def, present.eq_def]
  split
  next => rfl
  next => rfl
  next t hnull =>
    rw [Tree.within, if_pos (h t rfl)]
    split
    next ht => exact absurd (Option.some.inj ht) hnull
    next => rfl

theorem readTree_of_deep {t : Tree} (h : maxTreeDepth < t.height) :
    readTree (some t) = .error .tooDeep := by
  have hnull : t ≠ .null := by
    rintro rfl
    simp only [Tree.height] at h
    cases h
  rw [readTree.eq_def]
  split
  next ht => cases ht
  next ht => exact absurd (Option.some.inj ht) hnull
  next ht =>
    rw [← Option.some.inj ht, Tree.within, if_neg (Nat.not_le.mpr h)]
    rfl

theorem readBack_of_shallow {r : Response} (h : ∀ t ∈ r.trees, t.height ≤ maxTreeDepth) :
    r.readBack = .ok r.withoutNulls := by
  have hast : ∀ t ∈ r.ast, t.height ≤ maxTreeDepth :=
    fun t ht => h t (List.mem_append_left _ (Option.mem_toList.mpr ht))
  have hplan : ∀ t ∈ r.plan, t.height ≤ maxTreeDepth :=
    fun t ht => h t (List.mem_append_right _ (Option.mem_toList.mpr ht))
  rw [readBack, readTree_of_shallow hast, readTree_of_shallow hplan, withoutNulls]

/-- A tree that is too deep decides the outcome, whichever of the two it is. -/
theorem readBack_of_deep {r : Response} {t : Tree} (ht : t ∈ r.trees)
    (h : maxTreeDepth < t.height) : r.readBack = .error .tooDeep := by
  have hcause : ∀ {tree : Option Tree} {cause : Cause},
      readTree tree = .error cause → cause = .tooDeep := by
    intro tree cause hread
    by_cases hshallow : ∀ t ∈ tree, t.height ≤ maxTreeDepth
    · rw [readTree_of_shallow hshallow] at hread
      cases hread
    · simp only [not_forall, Nat.not_le] at hshallow
      obtain ⟨t, hmem, hdeep⟩ := hshallow
      rw [show tree = some t from hmem, readTree_of_deep hdeep] at hread
      cases hread
      rfl
  rw [readBack]
  rcases List.mem_append.mp ht with hast | hplan
  · rw [Option.mem_toList.mp hast, readTree_of_deep h]
  · rw [Option.mem_toList.mp hplan, readTree_of_deep h]
    cases hread : readTree r.ast with
    | ok _ => rfl
    | error cause => rw [hcause hread]

theorem exact_toTree {r : Response} (h : ∀ t ∈ r.trees, t.Exact) : r.toTree.Exact := by
  have htree : ∀ {tree : Option Tree}, (∀ t ∈ tree, t.Exact) → (Tree.ofOption tree).Exact := by
    intro tree htree
    cases tree with
    | none => trivial
    | some t => exact htree t rfl
  have hsuggestions : ∀ suggestions : List Suggestion,
      Tree.ExactItems (suggestions.map Suggestion.toTree) := by
    intro suggestions
    induction suggestions with
    | nil => trivial
    | cons s rest ih =>
        have hkeys : ["title", "description", "recommendation", "severity"].Nodup := by decide
        exact ⟨⟨hkeys, trivial, trivial, trivial, trivial, trivial⟩, ih⟩
  have hkeys : ["ast", "explain_plan", "suggestions"].Nodup := by decide
  refine ⟨hkeys, htree ?_, htree ?_, hsuggestions r.suggestions, trivial⟩
  · exact fun t ht => h t (List.mem_append_left _ (Option.mem_toList.mpr ht))
  · exact fun t ht => h t (List.mem_append_right _ (Option.mem_toList.mpr ht))

theorem ofJson_of_spells {r : Response} {text : String} (h : Spells r.toTree text.toList)
    (hexact : ∀ t ∈ r.trees, t.Exact) : (ofJson text).mapError Fault.cause = r.readBack := by
  refine readAll_of_takes (takes_response h hexact h.size_le_roundBound) space_nil space_nil ?_
  rw [List.nil_append, List.append_nil]

/-- Both layouts of a response can be read exactly when its trees have at most
126 levels. Then all of it comes back, in the same order everywhere, except
that a tree that is null is gone; a deeper tree is refused for its depth. -/
theorem texts_read_back (r : Response) (hexact : ∀ t ∈ r.trees, t.Exact) :
    ∀ text ∈ [r.toTree.toJson, r.toTree.toPrettyJson],
      ((∃ back, ofJson text = .ok back) ↔ ∀ t ∈ r.trees, t.height ≤ 126) ∧
      ((∀ t ∈ r.trees, t.height ≤ 126) → ofJson text = .ok r.withoutNulls) ∧
      ((∃ t ∈ r.trees, 126 < t.height) →
        ∃ fault, ofJson text = .error fault ∧ fault.cause = .tooDeep ∧
          fault.cause.describe = "recursion limit exceeded") := by
  intro text htext
  have hspells : Spells r.toTree text.toList := by
    simp only [List.mem_cons, List.not_mem_nil, or_false] at htext
    rcases htext with rfl | rfl
    · rw [Tree.toJson, String.toList_ofList]
      exact spells_compact (exact_toTree hexact)
    · rw [Tree.toPrettyJson, String.toList_ofList]
      exact spells_pretty 0 (exact_toTree hexact)
  have hread := ofJson_of_spells hspells hexact
  have hshallow : (∀ t ∈ r.trees, t.height ≤ 126) → ofJson text = .ok r.withoutNulls := by
    intro h
    rw [readBack_of_shallow h] at hread
    exact eq_ok_of_mapError hread
  have hdeep : (∃ t ∈ r.trees, 126 < t.height) →
      ∃ fault, ofJson text = .error fault ∧ fault.cause = .tooDeep := by
    rintro ⟨t, ht, h⟩
    rw [readBack_of_deep ht h] at hread
    exact eq_error_of_mapError hread
  refine ⟨⟨?_, fun h => ⟨_, hshallow h⟩⟩, hshallow, ?_⟩
  · rintro ⟨back, hback⟩ t ht
    by_contra h
    obtain ⟨fault, hfault, -⟩ := hdeep ⟨t, ht, Nat.not_le.mp h⟩
    rw [hback] at hfault
    cases hfault
  · intro h
    obtain ⟨fault, hfault, hcause⟩ := hdeep h
    exact ⟨fault, hfault, hcause, by rw [hcause]; rfl⟩

/-- A list inside a list, so many times. -/
def nest : Nat → Tree
  | 0 => .text "\"\\"
  | depth + 1 => .list [nest depth]

theorem exact_nest (depth : Nat) : (nest depth).Exact := by
  induction depth with
  | zero => trivial
  | succ depth ih => exact ⟨ih, trivial⟩

theorem height_nest (depth : Nat) : (nest depth).height = depth := by
  induction depth with
  | zero => rfl
  | succ depth ih => rw [nest, Tree.height, Tree.heightItems, Tree.heightItems, ih, Nat.max_zero]

/-- The boundary: with 126 levels a response comes back, without its plan that is
null, and with 127 it does not. -/
theorem texts_read_back_to_the_limit :
    ofJson (toTree ⟨some (nest 126), some .null, []⟩).toPrettyJson
        = .ok ⟨some (nest 126), none, []⟩ ∧
      ∃ fault, ofJson (toTree ⟨some (nest 127), none, []⟩).toJson = .error fault ∧
        fault.cause = .tooDeep := by
  have hshallow : ∀ t ∈ trees ⟨some (nest 126), some .null, []⟩, t.Exact ∧ t.height ≤ 126 := by
    intro t ht
    simp only [trees, Option.toList_some, List.cons_append, List.nil_append, List.mem_cons,
      List.not_mem_nil, or_false] at ht
    rcases ht with rfl | rfl
    · exact ⟨exact_nest 126, Nat.le_of_eq (height_nest 126)⟩
    · exact ⟨trivial, Nat.zero_le _⟩
  have hdeep : ∀ t ∈ trees ⟨some (nest 127), none, []⟩, t.Exact := by
    intro t ht
    obtain rfl : t = nest 127 := by simpa [trees] using ht
    exact exact_nest 127
  refine ⟨?_, ?_⟩
  · have h := texts_read_back _ (fun t ht => (hshallow t ht).1) _
      (List.mem_cons_of_mem _ List.mem_cons_self)
    exact h.2.1 fun t ht => (hshallow t ht).2
  · have h := texts_read_back _ hdeep _ List.mem_cons_self
    obtain ⟨fault, hfault, hcause, -⟩ := h.2.2 ⟨nest 127, List.mem_cons_self, by
      rw [height_nest]
      decide⟩
    exact ⟨fault, hfault, hcause⟩

end Response

end QueryAdvisor
