import QueryAdvisor.Proofs.LetterCase
import QueryAdvisor.Proofs.PatternFindings

/-!
# Which functions of columns are reported

The rule about functions reads any tree and looks at both operands of every
comparison, whatever its kind. As for patterns, its findings are described here
by keys and values alone: `AppliesTo` says which nodes call a function on a
column, and `Occurrences` goes along the objects in pre-order and takes the left
operand of a comparison before the right one.

An operand may hold comparisons of its own. They are objects further down, so
what they show comes behind what both operands of the outer comparison show; the
order is that of the objects, and only within one comparison that of its
operands.

What is told apart is the function in lower case and the column as it stands.
-/

namespace QueryAdvisor.FunctionOnColumn

open ParseTree

/-! ## What is looked for -/

/-- A node calls a function, by a name whose last part is a text, and its first
argument refers to a column with a name. -/
inductive AppliesTo : Tree → (function column : String) → Prop where
  | intro {node call last segment : Fields} {parts rest : List Tree} {first : Tree}
      {function column : String}
      (hcall : node.get? "FuncCall" = some (.object call))
      (hparts : call.get? "funcname" = some (.list (parts ++ [.object last])))
      (hlast : last.get? "String" = some (.object segment))
      (hfunction : segment.get? "sval" = some (.text function))
      (hargs : call.get? "args" = some (.list (first :: rest)))
      (hcolumn : RefersTo first column) (hne : column ≠ "") :
      AppliesTo (.object node) function column

/-- What a node is told by. -/
inductive Shows : Tree → Finding → Prop where
  | intro {operand : Tree} {function column : String} (h : AppliesTo operand function column) :
      Shows operand ⟨Text.lowered function, column⟩

/-- What an operand that may be absent adds to the findings. -/
inductive Adds : Option Tree → List Finding → Prop where
  | shown {operand : Tree} {f : Finding} (h : Shows operand f) : Adds (some operand) [f]
  | passed {operand : Tree} (h : ∀ f, ¬ Shows operand f) : Adds (some operand) []
  | absent : Adds none []

/-- What the objects of a list show, one after the other. -/
inductive Occurrences : List Fields → List Finding → Prop where
  | nil : Occurrences [] []
  | comparison {fields expr : Fields} {rest : List Fields} {left right fs : List Finding}
      (hexpr : fields.get? "A_Expr" = some (.object expr))
      (hleft : Adds (expr.get? "lexpr") left) (hright : Adds (expr.get? "rexpr") right)
      (hrest : Occurrences rest fs) : Occurrences (fields :: rest) (left ++ right ++ fs)
  | passed {fields : Fields} {rest : List Fields} {fs : List Finding}
      (h : ∀ expr, fields.get? "A_Expr" ≠ some (.object expr)) (hrest : Occurrences rest fs) :
      Occurrences (fields :: rest) fs

/-- An object is a comparison with a certain operand. -/
inductive HasOperand (fields : Fields) (operand : Tree) : Prop where
  | left {expr : Fields} (hexpr : fields.get? "A_Expr" = some (.object expr))
      (h : expr.get? "lexpr" = some operand) : HasOperand fields operand
  | right {expr : Fields} (hexpr : fields.get? "A_Expr" = some (.object expr))
      (h : expr.get? "rexpr" = some operand) : HasOperand fields operand

/-! ## What the rule sees of an operand -/

/-- A call has a first argument when it has a list of them that is not empty. -/
theorem head?_args_eq_some_iff {call : Fields} {first : Tree} :
    ((Fields.list? call "args").getD []).head? = some first ↔
      ∃ rest, call.get? "args" = some (.list (first :: rest)) := by
  simp only [← Fields.list?_eq_some_iff]
  rcases Fields.list? call "args" with _ | args
  · simp
  · simp [List.head?_eq_some_iff]

theorem columnName?_filter_eq_some_iff {t : Tree} {column : String} :
    (columnName? t).filter (· ≠ "") = some column ↔ RefersTo t column ∧ column ≠ "" := by
  rw [Option.filter_eq_some_iff, columnName?_eq_some_iff, decide_eq_true_eq]

/-- The recognisers of the rule say of every operand what the description says. -/
theorem shows_iff {operand : Tree} {f : Finding} :
    Shows operand f ↔ finding? operand = some f := by
  simp only [finding?, call?, segment?, bind, pure, Option.bind_eq_some_iff,
    Tree.object?_eq_some_iff, Fields.list?_eq_some_iff, Fields.text?_eq_some_iff,
    Option.some.injEq]
  constructor
  · rintro ⟨⟨hcall, hparts, hlast, hfunction, hargs, hcolumn, hne⟩⟩
    refine ⟨_, ⟨_, ⟨_, rfl, hcall⟩, _, hparts, _, List.getLast?_concat, _, ⟨_, ⟨_, rfl, hlast⟩,
      hfunction⟩, rfl⟩, _, head?_args_eq_some_iff.mpr ⟨_, hargs⟩, _,
      columnName?_filter_eq_some_iff.mpr ⟨hcolumn, hne⟩, rfl⟩
  · rintro ⟨_, ⟨call, ⟨node, rfl, hcall⟩, parts, hparts, _, hend, function,
      ⟨segment, ⟨last, rfl, hlast⟩, hfunction⟩, rfl⟩, first, hfirst, column, hcolumn, rfl⟩
    obtain ⟨parts, rfl⟩ := List.getLast?_eq_some_iff.mp hend
    obtain ⟨rest, hargs⟩ := head?_args_eq_some_iff.mp hfirst
    obtain ⟨hrefers, hne⟩ := columnName?_filter_eq_some_iff.mp hcolumn
    exact .intro (.intro hcall hparts hlast hfunction hargs hrefers hne)

/-- Two operands are told alike when their functions have one lower-case form and
their columns do not differ at all. -/
theorem shows_alike_iff {a b : Tree} {function function' column column' : String}
    (ha : AppliesTo a function column) (hb : AppliesTo b function' column') :
    (∃ f, Shows a f ∧ Shows b f) ↔
      Text.lowered function = Text.lowered function' ∧ column = column' := by
  have hshows := shows_iff.mp (.intro ha)
  have hshows' := shows_iff.mp (.intro hb)
  simp only [shows_iff, hshows, hshows', Option.some.injEq]
  rw [← Finding.mk.injEq]
  constructor
  · rintro ⟨f, hf, hf'⟩
    rw [hf, hf']
  · intro h
    exact ⟨_, h, rfl⟩

/-- Two operands with one column are told alike when the names of their functions
are equal up to the case of letters. -/
theorem shows_alike_of_eqUpToCase {a b : Tree} {function function' column : String}
    (ha : AppliesTo a function column) (hb : AppliesTo b function' column)
    (h : Text.EqUpToCase function function') : ∃ f, Shows a f ∧ Shows b f :=
  (shows_alike_iff ha hb).mpr ⟨h.lowered_eq, rfl⟩

theorem adds_iff {operand : Option Tree} {fs : List Finding} :
    Adds operand fs ↔ fs = operand.toList.filterMap finding? := by
  constructor
  · intro h
    cases h with
    | shown h => rw [Option.toList_some, List.filterMap_cons_some (shows_iff.mp h),
        List.filterMap_nil]
    | passed h =>
        rw [Option.toList_some, List.filterMap_cons_none, List.filterMap_nil]
        rw [Option.eq_none_iff_forall_ne_some]
        exact fun f hf => h f (shows_iff.mpr hf)
    | absent => rfl
  · rintro rfl
    cases operand with
    | none => exact .absent
    | some operand =>
        rw [Option.toList_some, List.filterMap_cons, List.filterMap_nil]
        split
        · next hnone =>
            refine .passed fun f hf => ?_
            rw [shows_iff, hnone] at hf
            cases hf
        · next f hf => exact .shown (shows_iff.mpr hf)

/-! ## What it sees of all objects -/

/-- What the rule finds in some objects. -/
def found (objects : List Fields) : List Finding :=
  ((objects.filterMap Comparison.ofFields?).flatMap Comparison.operands).filterMap finding?

theorem ofFields?_eq_some_iff {fields expr : Fields} :
    Comparison.ofFields? fields = some ⟨expr⟩ ↔ fields.get? "A_Expr" = some (.object expr) := by
  rw [Comparison.ofFields?, Option.map_eq_some_iff]
  simp only [Fields.object?_eq_some_iff, Comparison.mk.injEq, exists_eq_right]

theorem found_cons_of_comparison {fields expr : Fields}
    (h : fields.get? "A_Expr" = some (.object expr)) (rest : List Fields) :
    found (fields :: rest)
      = (expr.get? "lexpr").toList.filterMap finding?
          ++ (expr.get? "rexpr").toList.filterMap finding? ++ found rest := by
  rw [found, List.filterMap_cons_some (ofFields?_eq_some_iff.mpr h), List.flatMap_cons,
    List.filterMap_append, Comparison.operands, List.filterMap_append]
  rfl

theorem found_cons_of_not_comparison {fields : Fields}
    (h : ∀ expr, fields.get? "A_Expr" ≠ some (.object expr)) (rest : List Fields) :
    found (fields :: rest) = found rest := by
  have hnone : Comparison.ofFields? fields = none := by
    rw [Option.eq_none_iff_forall_ne_some]
    rintro ⟨expr⟩ hexpr
    exact h expr (ofFields?_eq_some_iff.mp hexpr)
  rw [found, List.filterMap_cons_none hnone, found]

theorem occurrences_iff {objects : List Fields} {keys : List Finding} :
    Occurrences objects keys ↔ keys = found objects := by
  constructor
  · intro h
    induction h with
    | nil => rfl
    | comparison hexpr hleft hright _ ih =>
        rw [found_cons_of_comparison hexpr, ih, adds_iff.mp hleft, adds_iff.mp hright]
    | passed h _ ih => rw [found_cons_of_not_comparison h, ih]
  · rintro rfl
    induction objects with
    | nil => exact .nil
    | cons fields rest ih =>
        by_cases h : ∃ expr, fields.get? "A_Expr" = some (.object expr)
        · obtain ⟨expr, hexpr⟩ := h
          rw [found_cons_of_comparison hexpr]
          exact .comparison hexpr (adds_iff.mpr rfl) (adds_iff.mpr rfl) ih
        · have hpassed : ∀ expr, fields.get? "A_Expr" ≠ some (.object expr) :=
            fun expr hexpr => h ⟨expr, hexpr⟩
          rw [found_cons_of_not_comparison hpassed]
          exact .passed hpassed ih

theorem mem_found_iff {objects : List Fields} {f : Finding} :
    f ∈ found objects ↔
      ∃ fields ∈ objects, ∃ operand, HasOperand fields operand ∧ Shows operand f := by
  simp only [found, List.mem_filterMap, List.mem_flatMap, Comparison.operands, List.mem_append,
    Option.mem_toList, Comparison.left?, Comparison.right?, shows_iff]
  constructor
  · rintro ⟨operand, ⟨⟨expr⟩, ⟨fields, hfields, hexpr⟩, hleft | hright⟩, hf⟩
    · exact ⟨fields, hfields, operand, .left (ofFields?_eq_some_iff.mp hexpr) hleft, hf⟩
    · exact ⟨fields, hfields, operand, .right (ofFields?_eq_some_iff.mp hexpr) hright, hf⟩
  · rintro ⟨fields, hfields, operand, hoperand, hf⟩
    cases hoperand with
    | left hexpr h =>
        exact ⟨operand, ⟨_, ⟨fields, hfields, ofFields?_eq_some_iff.mpr hexpr⟩, .inl h⟩, hf⟩
    | right hexpr h =>
        exact ⟨operand, ⟨_, ⟨fields, hfields, ofFields?_eq_some_iff.mpr hexpr⟩, .inr h⟩, hf⟩

theorem apply_eq_found (t : Tree) (plan : Option Tree) (request : Request) :
    Rule.functionOnColumn.apply { ast := some t, plan, request }
      = .ok ((distinct (found t.objects)).map Finding.suggestion) := by
  rw [apply_functionOnColumn, functionSuggestions, treeComparisons, suggestions, found,
    ← comparisons_eq_filterMap]
  simp only [Option.toList_some, List.flatMap_cons, List.flatMap_nil, List.append_nil]

/-- The rule never fails. Its findings are the functions of columns among the
operands of all comparisons, in pre-order and from left to right, each told when
it first comes: none is told twice and none is left out. Functions with one
lower-case form are one finding, and so are all whose names differ in letter case
alone; columns that do so are two. -/
theorem suggestions_about_first_calls (t : Tree) (plan : Option Tree) (request : Request) :
    ∃ keys told,
      (∀ keys', Occurrences t.objects keys' ↔ keys' = keys) ∧
      (∀ told', ToldOnce keys told' ↔ told' = told) ∧
      Rule.functionOnColumn.apply { ast := some t, plan, request }
        = .ok (told.map Finding.suggestion) ∧
      (∀ s ∈ told.map Finding.suggestion, s.severity = .medium) ∧
      told.Nodup ∧
      (∀ f, f ∈ told ↔
        ∃ fields ∈ t.objects, ∃ operand, HasOperand fields operand ∧ Shows operand f) ∧
      (∀ a b function function' column column',
        AppliesTo a function column → AppliesTo b function' column' →
        ((∃ f, Shows a f ∧ Shows b f) ↔
          Text.lowered function = Text.lowered function' ∧ column = column')) ∧
      ∀ a b function function' column,
        AppliesTo a function column → AppliesTo b function' column →
        Text.EqUpToCase function function' → ∃ f, Shows a f ∧ Shows b f := by
  refine ⟨found t.objects, distinct (found t.objects), fun _ => occurrences_iff,
    fun _ => toldOnce_iff, apply_eq_found t plan request, ?_, nodup_distinct _, ?_,
    fun _ _ _ _ _ _ => shows_alike_iff, fun _ _ _ _ _ => shows_alike_of_eqUpToCase⟩
  · intro s hs
    obtain ⟨f, -, rfl⟩ := List.mem_map.mp hs
    rfl
  · intro f
    rw [mem_distinct, mem_found_iff]

end QueryAdvisor.FunctionOnColumn
