import Mathlib.Data.Finset.Card
import QueryAdvisor.Proofs.StatementUnion

/-!
# Which patterns are reported

The rule about leading wildcards reads any tree, whether or not it comes from a
query. Here its findings are described without the recognisers it uses:
`Qualifies` says by keys and values which objects are comparisons with such a
pattern and what each of them shows, and `Occurrences` goes along the objects
in pre-order. What is reported is what occurs, once each, in the order of the
first occurrences.

The recognisers and the description meet object by object; the walk and the set
of findings already seen are dealt with elsewhere.
-/

namespace QueryAdvisor

/-! ## Looking things up -/

namespace Fields

variable {fields : Fields} {key : String}

theorem object?_eq_some_iff {value : Fields} :
    fields.object? key = some value ↔ fields.get? key = some (.object value) := by
  rw [object?]
  rcases fields.get? key with _ | t
  · simp
  · cases t <;> simp [Tree.asObject?]

theorem list?_eq_some_iff {items : List Tree} :
    fields.list? key = some items ↔ fields.get? key = some (.list items) := by
  rw [list?]
  rcases fields.get? key with _ | t
  · simp
  · cases t <;> simp [Tree.asList?]

theorem text?_eq_some_iff {s : String} :
    fields.text? key = some s ↔ fields.get? key = some (.text s) := by
  rw [text?]
  rcases fields.get? key with _ | t
  · simp
  · cases t <;> simp [Tree.asText?]

end Fields

theorem Tree.object?_eq_some_iff {t : Tree} {key : String} {value : Fields} :
    t.object? key = some value ↔
      ∃ fields : Fields, t = .object fields ∧ fields.get? key = some (.object value) := by
  cases t with
  | object fields =>
      rw [show (Tree.object fields).object? key = Fields.object? fields key from rfl,
        Fields.object?_eq_some_iff]
      constructor
      · intro h
        exact ⟨fields, rfl, h⟩
      · rintro ⟨_, ⟨⟩, h⟩
        exact h
  | null | bool _ | number _ | text _ | list _ => simp [object?, field?, asObject?]

namespace ParseTree

/-- A node refers to a column, by a name whose last part is a text. -/
inductive RefersTo : Tree → String → Prop where
  | intro {node column last segment : Fields} {parts : List Tree} {name : String}
      (hcolumn : node.get? "ColumnRef" = some (.object column))
      (hparts : column.get? "fields" = some (.list (parts ++ [.object last])))
      (hlast : last.get? "String" = some (.object segment))
      (hname : segment.get? "sval" = some (.text name)) : RefersTo (.object node) name

/-- A node is a text constant. -/
inductive IsTextConstant : Tree → String → Prop where
  | intro {node constant value : Fields} {s : String}
      (hconstant : node.get? "A_Const" = some (.object constant))
      (hvalue : constant.get? "sval" = some (.object value))
      (htext : value.get? "sval" = some (.text s)) : IsTextConstant (.object node) s

theorem columnName?_eq_some_iff {t : Tree} {name : String} :
    columnName? t = some name ↔ RefersTo t name := by
  simp only [columnName?, segment?, bind, Option.bind_eq_some_iff, Tree.object?_eq_some_iff,
    Fields.list?_eq_some_iff, Fields.text?_eq_some_iff]
  constructor
  · rintro ⟨column, ⟨node, rfl, hcolumn⟩, parts, hparts, _, hend, segment, ⟨last, rfl, hlast⟩, hname⟩
    obtain ⟨parts, rfl⟩ := List.getLast?_eq_some_iff.mp hend
    exact .intro hcolumn hparts hlast hname
  · rintro ⟨hcolumn, hparts, hlast, hname⟩
    exact ⟨_, ⟨_, rfl, hcolumn⟩, _, hparts, _, List.getLast?_concat, _, ⟨_, rfl, hlast⟩, hname⟩

theorem constText?_eq_some_iff {t : Tree} {s : String} :
    constText? t = some s ↔ IsTextConstant t s := by
  simp only [constText?, bind, Option.bind_eq_some_iff, Tree.object?_eq_some_iff,
    Fields.object?_eq_some_iff, Fields.text?_eq_some_iff]
  constructor
  · rintro ⟨constant, ⟨node, rfl, hconstant⟩, value, hvalue, htext⟩
    exact .intro hconstant hvalue htext
  · rintro ⟨hconstant, hvalue, htext⟩
    exact ⟨_, ⟨_, rfl, hconstant⟩, _, hvalue, htext⟩

end ParseTree

open ParseTree

namespace LeadingWildcard

/-! ## What qualifies -/

/-- The column that a comparison is counted under: the left operand, if that refers
to a column with a name. -/
inductive CountsUnder (expr : Fields) : Option String → Prop where
  | column {left : Tree} {name : String} (hleft : expr.get? "lexpr" = some left)
      (hname : RefersTo left name) (hne : name ≠ "") : CountsUnder expr (some name)
  | noColumn (h : ∀ left name, expr.get? "lexpr" = some left → RefersTo left name → name = "") :
      CountsUnder expr none

/-- An object is a `LIKE` comparison with a pattern that starts with a wildcard. -/
inductive Qualifies : Fields → Finding → Prop where
  | intro {fields expr : Fields} {right : Tree} {column : Option String} {pattern : String}
      (hexpr : fields.get? "A_Expr" = some (.object expr))
      (hkind : expr.get? "kind" = some (.text "AEXPR_LIKE"))
      (hright : expr.get? "rexpr" = some right) (hpattern : IsTextConstant right pattern)
      (hwildcard : ['%'] <+: pattern.toList) (hcolumn : CountsUnder expr column) :
      Qualifies fields ⟨column, pattern⟩

/-- What the objects of a list show, one after the other. -/
inductive Occurrences : List Fields → List Finding → Prop where
  | nil : Occurrences [] []
  | shown {fields : Fields} {rest : List Fields} {f : Finding} {fs : List Finding}
      (h : Qualifies fields f) (hrest : Occurrences rest fs) :
      Occurrences (fields :: rest) (f :: fs)
  | passed {fields : Fields} {rest : List Fields} {fs : List Finding}
      (h : ∀ f, ¬ Qualifies fields f) (hrest : Occurrences rest fs) :
      Occurrences (fields :: rest) fs

/-- The members of a list once each, in the order in which they first occur. -/
structure FirstOccurrences (all once : List Finding) : Prop where
  nodup : once.Nodup
  mem_iff : ∀ f, f ∈ once ↔ f ∈ all
  ordered : once.Pairwise fun f g => all.idxOf f < all.idxOf g

/-! ## What the rule finds -/

theorem countsUnder_iff {expr : Fields} {column : Option String} :
    CountsUnder expr column ↔
      ((expr.get? "lexpr").bind columnName?).filter (· ≠ "") = column := by
  have hread : ∀ {left : Tree} {name : String}, expr.get? "lexpr" = some left →
      RefersTo left name → (expr.get? "lexpr").bind columnName? = some name := by
    intro left name hleft hname
    rw [hleft, Option.bind_some, columnName?_eq_some_iff]
    exact hname
  constructor
  · intro h
    cases h with
    | column hleft hname hne => simp only [hread hleft hname, Option.filter, hne, ne_eq,
        not_false_eq_true, decide_true, if_true]
    | noColumn h =>
        cases hname : (expr.get? "lexpr").bind columnName? with
        | none => rfl
        | some name =>
            obtain ⟨left, hleft, hname⟩ := Option.bind_eq_some_iff.mp hname
            rw [h left name hleft (columnName?_eq_some_iff.mp hname)]
            rfl
  · rintro rfl
    cases hname : (expr.get? "lexpr").bind columnName? with
    | none =>
        refine .noColumn fun left name hleft hrefers => ?_
        rw [hread hleft hrefers] at hname
        cases hname
    | some name =>
        by_cases hne : name = ""
        · subst hne
          refine .noColumn fun left name hleft hrefers => ?_
          rw [hread hleft hrefers] at hname
          exact Option.some.inj hname
        · obtain ⟨left, hleft, hname⟩ := Option.bind_eq_some_iff.mp hname
          simp only [Option.filter, hne, ne_eq, not_false_eq_true, decide_true, if_true]
          exact .column hleft (columnName?_eq_some_iff.mp hname) hne

theorem isLike_iff {expr : Fields} :
    (Comparison.mk expr).isLike = true ↔ expr.get? "kind" = some (.text "AEXPR_LIKE") := by
  rw [Comparison.isLike, beq_iff_eq, Comparison.kind?, Fields.text?_eq_some_iff, likeKind]

theorem finding?_eq_some_iff {expr : Fields} {column : Option String} {pattern : String} :
    finding? ⟨expr⟩ = some ⟨column, pattern⟩ ↔
      (Comparison.mk expr).isLike = true ∧
        (Comparison.mk expr).right?.bind constText? = some pattern ∧
        pattern.toList.head? = some '%' ∧
        ((expr.get? "lexpr").bind columnName?).filter (· ≠ "") = column := by
  rw [finding?]
  constructor
  · intro h
    split at h
    · next hlike =>
        split at h
        · next s hs =>
            split at h
            · next hhead =>
                cases h
                exact ⟨hlike, hs, hhead, rfl⟩
            · cases h
        · cases h
    · cases h
  · rintro ⟨hlike, hs, hhead, rfl⟩
    simp only [hlike, if_true, hs, hhead]
    rfl

/-- What the rule makes of an object. -/
def shown? (fields : Fields) : Option Finding :=
  (Comparison.ofFields? fields).bind finding?

/-- The recognisers of the rule say of every object what the description says. -/
theorem qualifies_iff {fields : Fields} {f : Finding} :
    Qualifies fields f ↔ shown? fields = some f := by
  have hwildcard : ∀ s : List Char, ['%'] <+: s ↔ s.head? = some '%' := by
    intro s
    rw [List.head?_eq_some_iff]
    constructor
    · rintro ⟨rest, rfl⟩
      exact ⟨rest, rfl⟩
    · rintro ⟨rest, rfl⟩
      exact ⟨rest, rfl⟩
  obtain ⟨column, pattern⟩ := f
  simp only [shown?, Option.bind_eq_some_iff, Comparison.ofFields?, Option.map_eq_some_iff,
    Fields.object?_eq_some_iff]
  constructor
  · rintro ⟨hexpr, hkind, hright, hpattern, hprefix, hcolumn⟩
    refine ⟨_, ⟨_, hexpr, rfl⟩, finding?_eq_some_iff.mpr ⟨isLike_iff.mpr hkind, ?_,
      (hwildcard _).mp hprefix, countsUnder_iff.mp hcolumn⟩⟩
    exact Option.bind_eq_some_iff.mpr ⟨_, hright, constText?_eq_some_iff.mpr hpattern⟩
  · rintro ⟨_, ⟨expr, hexpr, rfl⟩, hf⟩
    obtain ⟨hlike, htext, hhead, hcolumn⟩ := finding?_eq_some_iff.mp hf
    obtain ⟨right, hright, hpattern⟩ := Option.bind_eq_some_iff.mp htext
    exact .intro hexpr (isLike_iff.mp hlike) hright (constText?_eq_some_iff.mp hpattern)
      ((hwildcard _).mpr hhead) (countsUnder_iff.mpr hcolumn)

theorem occurrences_iff {objects : List Fields} {keys : List Finding} :
    Occurrences objects keys ↔ keys = objects.filterMap shown? := by
  constructor
  · intro h
    induction h with
    | nil => rfl
    | shown h _ ih => rw [List.filterMap_cons_some (qualifies_iff.mp h), ih]
    | passed h _ ih =>
        rw [List.filterMap_cons_none, ih]
        rw [Option.eq_none_iff_forall_ne_some]
        exact fun f hf => h f (qualifies_iff.mpr hf)
  · rintro rfl
    induction objects with
    | nil => exact .nil
    | cons fields rest ih =>
        rw [List.filterMap_cons]
        split
        · next hnone =>
            refine .passed (fun f hf => ?_) ih
            rw [qualifies_iff, hnone] at hf
            cases hf
        · next f hf => exact .shown (qualifies_iff.mpr hf) ih

theorem mem_of_occurrences {objects : List Fields} {keys : List Finding}
    (h : Occurrences objects keys) (f : Finding) :
    f ∈ keys ↔ ∃ fields ∈ objects, Qualifies fields f := by
  rw [occurrences_iff.mp h, List.mem_filterMap]
  simp only [qualifies_iff]

theorem firstOccurrences_distinct (keys : List Finding) :
    FirstOccurrences keys (distinct keys) where
  nodup := nodup_distinct keys
  mem_iff _ := mem_distinct
  ordered := pairwise_idxOf_distinctFrom [] keys

/-- The rule never fails. Its findings are the comparisons that qualify, in
pre-order, each told where it first occurs: none is told twice, none is left
out, and there are as many suggestions as different findings. -/
theorem suggestions_at_first_occurrences (t : Tree) (plan : Option Tree) (request : Request) :
    ∃ keys told,
      (∀ keys', Occurrences t.objects keys' ↔ keys' = keys) ∧
      FirstOccurrences keys told ∧
      Rule.leadingWildcard.apply { ast := some t, plan, request }
        = .ok (told.map Finding.suggestion) ∧
      (∀ s ∈ told.map Finding.suggestion, s.severity = .medium) ∧
      (∀ f, f ∈ told ↔ ∃ fields ∈ t.objects, Qualifies fields f) ∧
      (told.map Finding.suggestion).length = keys.toFinset.card := by
  obtain ⟨keys, hkeys⟩ : ∃ keys, keys = (comparisons t).filterMap finding? := ⟨_, rfl⟩
  have hoccur : ∀ keys', Occurrences t.objects keys' ↔ keys' = keys := by
    intro keys'
    rw [occurrences_iff, hkeys, comparisons_eq_filterMap, List.filterMap_filterMap]
    rfl
  have hfirst := firstOccurrences_distinct keys
  refine ⟨keys, distinct keys, hoccur, hfirst, ?_, ?_, ?_, ?_⟩
  · rw [apply_leadingWildcard, patternSuggestions, treeComparisons, suggestions, hkeys]
    simp only [Option.toList_some, List.flatMap_cons, List.flatMap_nil, List.append_nil]
  · intro s hs
    obtain ⟨f, -, rfl⟩ := List.mem_map.mp hs
    rfl
  · intro f
    rw [hfirst.mem_iff, mem_of_occurrences ((hoccur keys).mpr rfl)]
  · have hset : keys.toFinset = (distinct keys).toFinset := by
      ext f
      rw [List.mem_toFinset, List.mem_toFinset, hfirst.mem_iff]
    rw [List.length_map, hset, List.toFinset_card_of_nodup hfirst.nodup]

end LeadingWildcard

end QueryAdvisor
