import QueryAdvisor.Proofs.CallFindings
import QueryAdvisor.Proofs.Recognised

/-!
# Which argument of a function is reported

The rule about functions looks at the first argument that the node of a call
holds. A node holds the arguments that are expressions, with or without a name;
a star, `t.*` or a named star has no node and leaves no gap. So the column that
is reported is the first expression of the argument list, and that is the first
argument as it is written unless a star stands in front of it: `f(*, x) = 1` is
reported as a function of `x`.

`ColumnBehind` says which stars stand in front of the column. The rule does not
see them, and it is right about the first argument exactly when there are none.
-/

namespace QueryAdvisor

open ParseTree Sql

namespace Sql

/-- A side of a comparison. -/
inductive Side where
  | left
  | right

/-- What stands on a side. -/
def Side.pick {α : Type} (side : Side) (left right : α) : α :=
  match side with
  | .left => left
  | .right => right

/-- An expression compares an operand, which stands on one of its sides. Behind
`IN` and `BETWEEN` stands a list, and that is no operand. -/
inductive Expr.HasOperand : Expr → Side → Expr → Prop where
  | binaryLeft (left : Expr) (operator : String) (right : Expr) :
      HasOperand (.binary left (.symbol operator) right) .left left
  | binaryRight (left : Expr) (operator : String) (right : Expr) :
      HasOperand (.binary left (.symbol operator) right) .right right
  | unary (operator : String) (operand : Expr) :
      HasOperand (.unary (.symbol operator) operand) .right operand
  | likeSubject (negated : Bool) (subject pattern : Expr) :
      HasOperand (.like negated subject pattern) .left subject
  | likePattern (negated : Bool) (subject pattern : Expr) :
      HasOperand (.like negated subject pattern) .right pattern
  | ilikeSubject (negated : Bool) (subject pattern : Expr) :
      HasOperand (.ilike negated subject pattern) .left subject
  | ilikePattern (negated : Bool) (subject pattern : Expr) :
      HasOperand (.ilike negated subject pattern) .right pattern
  | inList (negated : Bool) (subject : Expr) (items : List Expr) :
      HasOperand (.inList negated subject items) .left subject
  | between (negated : Bool) (subject low high : Expr) :
      HasOperand (.between negated subject low high) .left subject

/-- An expression calls a function, which goes by what the last part of its name is
folded to, in lower case, with some arguments. -/
inductive Expr.CallsWith : Expr → (function : String) → List Arg → Prop where
  | call {name : List Ident} {last : Ident} {n function : String}
      (hlast : name.getLast? = some last) (hn : last.FoldsTo n)
      (hfunction : Text.lowered n = function) (args : List Arg) :
      CallsWith (.call name args) function args

/-- An argument that is no expression. -/
inductive Arg.IsStar : Arg → Prop where
  | star : IsStar .star
  | qualified (parts : List Ident) : IsStar (.qualifiedStar parts)
  | named (name : Ident) : IsStar (.namedStar name)

/-- An argument is a column with a name, possibly in parentheses. -/
def Arg.IsColumn (arg : Arg) (column : String) : Prop :=
  ∃ value, arg.value? = some value ∧ value.bare.NamesColumn column ∧ column ≠ ""

/-- Behind some stars, and nothing else, comes a column. -/
def ColumnBehind (stars args : List Arg) (column : String) : Prop :=
  ∃ arg rest, args = stars ++ arg :: rest ∧ (∀ s ∈ stars, s.IsStar) ∧ arg.IsColumn column

theorem Arg.value?_eq_none_iff {arg : Arg} : arg.value? = none ↔ arg.IsStar := by
  cases arg with
  | positional _ | named _ _ =>
      refine ⟨fun h => ?_, fun h => ?_⟩
      · cases h
      · cases h
  | star => exact ⟨fun _ => .star, fun _ => rfl⟩
  | qualifiedStar parts => exact ⟨fun _ => .qualified parts, fun _ => rfl⟩
  | namedStar name => exact ⟨fun _ => .named name, fun _ => rfl⟩

/-- A column is no star, so it is found behind one list of stars only. -/
theorem ColumnBehind.eq_nil {stars args : List Arg} {column column' : String}
    (h : ColumnBehind [] args column) (h' : ColumnBehind stars args column') : stars = [] := by
  obtain ⟨arg, rest, rfl, -, value, hvalue, -⟩ := h
  obtain ⟨arg', rest', hargs, hstars, -⟩ := h'
  cases stars with
  | nil => rfl
  | cons first stars =>
      rw [List.nil_append, List.cons_append, List.cons.injEq] at hargs
      have hstar := Arg.value?_eq_none_iff.mpr (hstars first List.mem_cons_self)
      rw [← hargs.1, hvalue] at hstar
      cases hstar

end Sql

/-- The operand on a side of a comparison. -/
def ParseTree.Comparison.operand? (c : Comparison) (side : Side) : Option Tree :=
  side.pick c.left? c.right?

/-- A tree has a node in it, at any depth. -/
def Tree.Holds (t node : Tree) : Prop :=
  ∃ fields : Fields, node = .object fields ∧ fields ∈ t.objects

namespace FunctionOnColumn

/-- The rule reports a finding on account of the operand on one side of the
comparison that an expression is. -/
def ReportsFor (e : Expr) (side : Side) (f : Finding) : Prop :=
  ∃ c, Comparison.ofTree? (exprNode e) = some c ∧ (c.operand? side).bind finding? = some f

/-! ## From the comparison to its operand -/

theorem compares_of_hasOperand {e operand : Expr} {side : Side} (h : e.HasOperand side operand) :
    ∃ like left right, e.Compares like left right ∧
      side.pick left right = some (exprNode operand) := by
  cases h with
  | binaryLeft _ operator right => exact ⟨_, _, _, .binary operand operator right, rfl⟩
  | binaryRight left operator _ => exact ⟨_, _, _, .binary left operator operand, rfl⟩
  | unary operator _ => exact ⟨_, _, _, .unary operator operand, rfl⟩
  | likeSubject negated _ pattern => exact ⟨_, _, _, .like negated operand pattern, rfl⟩
  | likePattern negated subject _ => exact ⟨_, _, _, .like negated subject operand, rfl⟩
  | ilikeSubject negated _ pattern => exact ⟨_, _, _, .ilike negated operand pattern, rfl⟩
  | ilikePattern negated subject _ => exact ⟨_, _, _, .ilike negated subject operand, rfl⟩
  | inList negated _ items => exact ⟨_, _, _, .inList negated operand items, rfl⟩
  | between negated _ low high => exact ⟨_, _, _, .between negated operand low high, rfl⟩

/-- The comparison that an expression is has the tree of its operand on the side
where the operand stands. -/
theorem operand?_of_hasOperand {e operand : Expr} {side : Side}
    (h : e.bare.HasOperand side operand) :
    ∃ c, Comparison.ofTree? (exprNode e) = some c ∧
      c.operand? side = some (exprNode operand) := by
  obtain ⟨like, left, right, hcompares, hside⟩ := compares_of_hasOperand h
  obtain ⟨c, hc, -, hleft, hright⟩ :=
    (ofTree?_exprNode_iff (bare_ne_nested e) like left right).mpr hcompares
  refine ⟨c, ?_, ?_⟩
  · rw [← exprNode_bare, hc]
  · rw [Comparison.operand?, hleft, hright, hside]

theorem reportsFor_iff {e operand : Expr} {side : Side} (h : e.bare.HasOperand side operand)
    (f : Finding) : ReportsFor e side f ↔ finding? (exprNode operand) = some f := by
  obtain ⟨c, hc, hside⟩ := operand?_of_hasOperand h
  constructor
  · rintro ⟨c', hc', hf⟩
    rw [hc, Option.some.injEq] at hc'
    rw [← hc', hside, Option.bind_some] at hf
    exact hf
  · intro hf
    refine ⟨c, hc, ?_⟩
    rw [hside, Option.bind_some, hf]

/-! ## From the operand to its first expression -/

theorem refersTo_exprNode_iff {value : Expr} {column : String} :
    RefersTo (exprNode value) column ↔ value.bare.NamesColumn column := by
  rw [← columnName?_eq_some_iff, ← exprNode_bare, columnName?_exprNode_iff (bare_ne_nested value)]

theorem call?_of_callsWith {operand : Expr} {function : String} {args : List Arg}
    (h : operand.bare.CallsWith function args) :
    call? (exprNode operand) = some ⟨function, (args.filterMap Arg.value?).map exprNode⟩ := by
  rw [← exprNode_bare, call?_exprNode_iff (bare_ne_nested operand)]
  generalize operand.bare = e at h
  cases h with
  | call hlast hn hfunction args =>
      subst hfunction
      exact .call hlast hn args

/-- The first node of an argument list is that of a column, behind the stars in
front of it. -/
theorem columnBehind_iff {args : List Arg} {column : String} :
    (∃ first, ((args.filterMap Arg.value?).map exprNode).head? = some first ∧
        (columnName? first).filter (· ≠ "") = some column) ↔
      ∃ stars, ColumnBehind stars args column := by
  simp only [List.head?_map, List.head?_filterMap, Option.map_eq_some_iff,
    List.findSome?_eq_some_iff, columnName?_filter_eq_some_iff]
  constructor
  · rintro ⟨_, ⟨value, ⟨stars, arg, rest, rfl, hvalue, hstars⟩, rfl⟩, hrefers, hne⟩
    exact ⟨stars, arg, rest, rfl, fun s hs => Arg.value?_eq_none_iff.mp (hstars s hs), value,
      hvalue, refersTo_exprNode_iff.mp hrefers, hne⟩
  · rintro ⟨stars, arg, rest, rfl, hstars, value, hvalue, hnames, hne⟩
    exact ⟨_, ⟨value, ⟨stars, arg, rest, rfl, hvalue,
      fun s hs => Arg.value?_eq_none_iff.mpr (hstars s hs)⟩, rfl⟩,
      refersTo_exprNode_iff.mpr hnames, hne⟩

theorem finding?_exprNode {operand : Expr} {function : String} {args : List Arg}
    (h : operand.bare.CallsWith function args) (f : Finding) :
    finding? (exprNode operand) = some f ↔
      f.function = function ∧ ∃ stars, ColumnBehind stars args f.column := by
  obtain ⟨name, column⟩ := f
  rw [← columnBehind_iff]
  simp only [finding?, call?_of_callsWith h, bind, pure, Option.bind_some,
    Option.bind_eq_some_iff, Option.some.injEq, Finding.mk.injEq]
  constructor
  · rintro ⟨first, hfirst, _, hcolumn, rfl, rfl⟩
    exact ⟨rfl, first, hfirst, hcolumn⟩
  · rintro ⟨rfl, first, hfirst, hcolumn⟩
    exact ⟨first, hfirst, column, hcolumn, rfl, rfl⟩

/-! ## What the rule reports -/

/-- What is reported on account of an operand is suggested wherever the comparison
stands. -/
theorem suggestion_of_reportsFor {e : Expr} {t : Tree} (hholds : t.Holds (exprNode e))
    (plan : Option Tree) (request : Request) :
    ∃ made, Rule.functionOnColumn.apply { ast := some t, plan, request } = .ok made ∧
      ∀ side f, ReportsFor e side f → f.suggestion ∈ made := by
  obtain ⟨fields, hnode, hfields⟩ := hholds
  refine ⟨_, apply_eq_found t plan request, ?_⟩
  rintro side f ⟨⟨expr⟩, hc, hf⟩
  obtain ⟨operand, hside, hfinding⟩ := Option.bind_eq_some_iff.mp hf
  rw [hnode] at hc
  have hexpr : Fields.get? fields "A_Expr" = some (.object expr) := ofFields?_eq_some_iff.mp hc
  have hoperand : HasOperand fields operand := by
    cases side with
    | left => exact .left hexpr hside
    | right => exact .right hexpr hside
  refine List.mem_map_of_mem (mem_distinct.mpr ?_)
  exact mem_found_iff.mpr ⟨fields, hfields, operand, hoperand, shows_iff.mpr hfinding⟩

/-- On account of an operand that calls a function, the rule reports the function
with the column that is the first expression among its arguments, and nothing
else; stars in front of that column are passed over. So the column is the first
argument as it is written if and only if no star stands in front of it. The
suggestion is made in every tree that has the comparison in it. -/
theorem first_expression_reported {e operand : Expr} {side : Side} {function : String}
    {args : List Arg} (hoperand : e.bare.HasOperand side operand)
    (hcall : operand.bare.CallsWith function args) :
    (∀ f, ReportsFor e side f ↔
        f.function = function ∧ ∃ stars, ColumnBehind stars args f.column) ∧
      ((∀ f, ReportsFor e side f ↔ f.function = function ∧ ColumnBehind [] args f.column) ↔
        ∀ stars column, ColumnBehind stars args column → stars = []) ∧
      ∀ t plan request, t.Holds (exprNode e) →
        ∃ made, Rule.functionOnColumn.apply { ast := some t, plan, request } = .ok made ∧
          ∀ f, ReportsFor e side f → f.suggestion ∈ made := by
  have hexact : ∀ f, ReportsFor e side f ↔
      f.function = function ∧ ∃ stars, ColumnBehind stars args f.column := by
    intro f
    rw [reportsFor_iff hoperand, finding?_exprNode hcall]
  refine ⟨hexact, ⟨?_, ?_⟩, ?_⟩
  · -- what stands behind a star is reported, so it must be the first argument as well
    intro hfirst stars column hcolumn
    obtain ⟨-, hwritten⟩ := (hfirst ⟨function, column⟩).mp ((hexact _).mpr ⟨rfl, stars, hcolumn⟩)
    exact hwritten.eq_nil hcolumn
  · intro hnone f
    rw [hexact]
    constructor
    · rintro ⟨hfunction, stars, hcolumn⟩
      have hstars := hnone stars f.column hcolumn
      subst hstars
      exact ⟨hfunction, hcolumn⟩
    · rintro ⟨hfunction, hcolumn⟩
      exact ⟨hfunction, [], hcolumn⟩
  · intro t plan request hholds
    obtain ⟨made, hmade, hsuggested⟩ := suggestion_of_reportsFor hholds plan request
    exact ⟨made, hmade, fun f hf => hsuggested side f hf⟩

/-- A column, as an argument. -/
def columnArg (name : String) : Arg :=
  .positional (.identifier ⟨name, false⟩)

/-- `function(args) = 1`. -/
def callEqualsOne (function : String) (args : List Arg) : Expr :=
  .binary (.call [⟨function, false⟩] args) (.symbol "=") (.literal (.number "1"))

/-- `coalesce(a, b) = 1` is reported for `a`, its first argument. -/
theorem first_expression_of_coalesce :
    (callEqualsOne "coalesce" [columnArg "a", columnArg "b"]).bare.HasOperand .left
        (.call [⟨"coalesce", false⟩] [columnArg "a", columnArg "b"]) ∧
      (Expr.call [⟨"coalesce", false⟩] [columnArg "a", columnArg "b"]).bare.CallsWith "coalesce"
        [columnArg "a", columnArg "b"] ∧
      ReportsFor (callEqualsOne "coalesce" [columnArg "a", columnArg "b"]) .left
        ⟨"coalesce", "a"⟩ := by
  have hoperand : (callEqualsOne "coalesce" [columnArg "a", columnArg "b"]).bare.HasOperand .left
      (.call [⟨"coalesce", false⟩] [columnArg "a", columnArg "b"]) := .binaryLeft _ _ _
  have hcall : (Expr.call [⟨"coalesce", false⟩] [columnArg "a", columnArg "b"]).bare.CallsWith
      "coalesce" [columnArg "a", columnArg "b"] := .call rfl (.unquoted "coalesce") (by decide) _
  have hcolumn : (columnArg "a").IsColumn "a" :=
    ⟨_, rfl, .identifier (.unquoted "a"), by decide⟩
  refine ⟨hoperand, hcall, ((first_expression_reported hoperand hcall).1 _).mpr ⟨rfl, [], ?_⟩⟩
  exact ⟨columnArg "a", [columnArg "b"], rfl, fun s hs => absurd hs List.not_mem_nil, hcolumn⟩

/-- In `f(*, x) = 1` the first argument is no column, and yet `x` is reported. -/
theorem star_passed_over :
    ReportsFor (callEqualsOne "f" [.star, columnArg "x"]) .left ⟨"f", "x"⟩ ∧
      ∀ column, ¬ ColumnBehind [] [.star, columnArg "x"] column := by
  refine ⟨⟨_, rfl, rfl⟩, ?_⟩
  rintro column ⟨arg, rest, hargs, -, value, hvalue, -⟩
  rw [List.nil_append, List.cons.injEq] at hargs
  rw [← hargs.1] at hvalue
  cases hvalue

end FunctionOnColumn

end QueryAdvisor
