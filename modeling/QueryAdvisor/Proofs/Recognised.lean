import QueryAdvisor.Proofs.Comparisons

/-!
# What is recognised in the tree of an expression

A rule sees an expression through four recognisers: the name of a column, a
text constant, a function call, a comparison. Each looks for its own keys in a
tree, and nothing but agreement on those keys ties it to the builder. This
file states the agreement for every expression. Parentheses leave no trace in
a tree, so what is recognised is a property of the expression inside them.

A node is an object with one key, its label, and a recogniser that looks for
another label finds nothing. So only the expressions with the right label have
to be looked at: `label?` lists the labels, `object?_exprNode_eq_some` says
that a recogniser cannot see past them, and what remains is to read the fields
of four nodes.
-/

namespace QueryAdvisor

open ParseTree Sql

namespace Sql

/-- The expression inside its outer parentheses. -/
def Expr.bare : Expr → Expr
  | .nested inner => inner.bare
  | e => e

/-- An argument that is an expression, with or without a name. -/
def Arg.value? : Arg → Option Expr
  | .positional value => some value
  | .named _ value => some value
  | .star | .qualifiedStar _ | .namedStar _ => none

/-- What an identifier is folded to: its text as it stands between quotes, and its
text in lower case where there are none. -/
inductive Ident.FoldsTo : Ident → String → Prop where
  | quoted (text : String) : FoldsTo ⟨text, true⟩ text
  | unquoted (text : String) : FoldsTo ⟨text, false⟩ (Text.lowered text)

theorem Ident.foldsTo_iff {i : Ident} {n : String} : i.FoldsTo n ↔ i.name = n := by
  obtain ⟨text, quoted⟩ := i
  constructor
  · intro h
    cases h with
    | quoted | unquoted => rfl
  · rintro rfl
    cases quoted with
    | true => exact .quoted text
    | false => exact .unquoted text

/-- An expression names a column by what its last part is folded to. -/
inductive Expr.NamesColumn : Expr → String → Prop where
  | identifier {name : Ident} {n : String} (h : name.FoldsTo n) :
      NamesColumn (.identifier name) n
  | compound {parts : List Ident} {last : Ident} {n : String}
      (hlast : parts.getLast? = some last) (h : last.FoldsTo n) : NamesColumn (.compound parts) n

/-- An expression is a text. -/
inductive Expr.IsText : Expr → String → Prop where
  | singleQuoted (text : String) : IsText (.literal (.singleQuoted text)) text
  | escaped (text : String) : IsText (.literal (.escaped text)) text
  | national (text : String) : IsText (.literal (.national text)) text
  | dollarQuoted (text : String) : IsText (.literal (.dollarQuoted text)) text

/-- An expression calls a function, which goes by what the last part of its name is
folded to, in lower case. -/
inductive Expr.Calls : Expr → ParseTree.Call → Prop where
  | call {name : List Ident} {last : Ident} {n : String} (hlast : name.getLast? = some last)
      (h : last.FoldsTo n) (args : List Arg) :
      Calls (.call name args) ⟨Text.lowered n, (args.filterMap Arg.value?).map exprNode⟩

/-- An expression compares a left operand, if there is one, with a right one;
`like` tells whether it does so by `LIKE`. -/
inductive Expr.Compares : Expr → (like : Bool) → (left right : Option Tree) → Prop where
  | binary (left : Expr) (operator : String) (right : Expr) :
      Compares (.binary left (.symbol operator) right) false (some (exprNode left))
        (some (exprNode right))
  | unary (operator : String) (operand : Expr) :
      Compares (.unary (.symbol operator) operand) false none (some (exprNode operand))
  | like (negated : Bool) (subject pattern : Expr) :
      Compares (.like negated subject pattern) true (some (exprNode subject))
        (some (exprNode pattern))
  | ilike (negated : Bool) (subject pattern : Expr) :
      Compares (.ilike negated subject pattern) false (some (exprNode subject))
        (some (exprNode pattern))
  | inList (negated : Bool) (subject : Expr) (items : List Expr) :
      Compares (.inList negated subject items) false (some (exprNode subject))
        (some (.list (items.map exprNode)))
  | between (negated : Bool) (subject low high : Expr) :
      Compares (.between negated subject low high) false (some (exprNode subject))
        (some (.list [exprNode low, exprNode high]))

end Sql

/-- The comparison that a tree is. -/
def ParseTree.Comparison.ofTree? (t : Tree) : Option Comparison :=
  t.asObject?.bind Comparison.ofFields?

/-! ## Parentheses -/

theorem exprNode_nested (inner : Expr) : exprNode (.nested inner) = exprNode inner := by
  rw [exprNode, built]
  rfl

theorem exprNode_bare (e : Expr) : exprNode e.bare = exprNode e := by
  fun_induction Expr.bare e with
  | case1 inner ih => rw [ih, exprNode_nested]
  | case2 e h => rfl

theorem bare_ne_nested (e inner : Expr) : e.bare ≠ .nested inner := by
  fun_induction Expr.bare e with
  | case1 e ih => exact ih
  | case2 e h => exact h inner

/-! ## Labels -/

/-- The label of the node of an expression, if it has a node. -/
def Sql.Expr.label? : Expr → Option String
  | .identifier _ | .compound _ => some "ColumnRef"
  | .literal (.placeholder _) => some "ParamRef"
  | .literal _ => some "A_Const"
  | .nested inner => inner.label?
  | .binary _ (.symbol _) _ | .unary (.symbol _) _ => some "A_Expr"
  | .binary _ .and _ | .binary _ .or _ | .unary .not _ => some "BoolExpr"
  | .like .. | .ilike .. | .inList .. | .between .. => some "A_Expr"
  | .inSubquery true .. | .exists true _ => some "BoolExpr"
  | .inSubquery false .. | .exists false _ | .subquery _ => some "SubLink"
  | .isNull _ | .isNotNull _ => some "NullTest"
  | .call .. => some "FuncCall"
  | .cast .. => some "TypeCast"
  | .special .. => none

/-- A node has one key. -/
theorem object?_node (kind key : String) (fields : Fields) :
    (node kind fields).object? key = if kind = key then some fields else none := by
  rw [node, Tree.object?, Tree.field?, Tree.asObject?, Option.bind_some, Fields.get?, Fields.get?]
  split <;> rfl

theorem literalNode_eq_node (value : Literal) :
    ∃ kind fields, (Expr.literal value).label? = some kind ∧
      literalNode value = node kind fields := by
  cases value with
  | number digits =>
      rw [literalNode, numberConst]
      split
      · split <;> exact ⟨_, _, rfl, rfl⟩
      · exact ⟨_, _, rfl, rfl⟩
  | singleQuoted _ | escaped _ | national _ | dollarQuoted _ | unicode _ | hex _ | bool _ | null
  | placeholder _ => exact ⟨_, _, rfl, rfl⟩

/-- An expression has the node that its label says, or none. -/
theorem exprNode_eq_node (e : Expr) :
    (e.label? = none ∧ exprNode e = .null) ∨
      ∃ kind fields, e.label? = some kind ∧ exprNode e = node kind fields := by
  match e with
  | .nested inner =>
      rw [exprNode_nested, Expr.label?]
      exact exprNode_eq_node inner
  | .literal value =>
      rw [exprNode, built]
      exact .inr (literalNode_eq_node value)
  | .special _ _ =>
      rw [exprNode, built]
      exact .inl ⟨rfl, rfl⟩
  | .binary _ .and _ | .binary _ .or _ | .binary _ (.symbol _) _ | .unary .not _
  | .unary (.symbol _) _ | .inSubquery true _ _ | .inSubquery false _ _ | .exists true _
  | .exists false _ =>
      rw [exprNode, built]
      exact .inr ⟨_, _, rfl, rfl⟩
  | .identifier _ | .compound _ | .like .. | .ilike .. | .inList .. | .between .. | .isNull _
  | .isNotNull _ | .call .. | .cast .. | .subquery _ =>
      rw [exprNode, built]
      exact .inr ⟨_, _, rfl, rfl⟩

/-- What is found under a key is found there because the key is the label. -/
theorem object?_exprNode_eq_some {e : Expr} {key : String} {fields : Fields}
    (h : (exprNode e).object? key = some fields) : e.label? = some key := by
  obtain ⟨-, hnull⟩ | ⟨kind, fields', hlabel, hnode⟩ := exprNode_eq_node e
  · rw [hnull] at h
    cases h
  · rw [hnode, object?_node] at h
    split at h
    · next hkind => rw [hlabel, hkind]
    · cases h

/-! ## The fields of the nodes -/

theorem getLast?_segments (parts : List Ident) :
    (parts.map identSegment).getLast?.bind segment? = parts.getLast?.map Ident.name := by
  rw [List.getLast?_map, Option.bind_map]
  cases parts.getLast? <;> rfl

theorem columnName?_columnRef (parts : List Ident) :
    columnName? (columnRef parts) = parts.getLast?.map Ident.name :=
  getLast?_segments parts

theorem constText?_numberConst (digits : String) : constText? (numberConst digits) = none := by
  rw [numberConst]
  split
  · split <;> rfl
  · rfl

def ParseTree.callFields (name : List Ident) (star : Bool) (args : List Tree) : Fields :=
  [("funcname", .list (name.map identSegment))]
    ++ (if star then [("agg_star", .bool true)] else [])
    ++ (if args.isEmpty then [] else [("args", .list args)])

/-- A call without arguments has no field for them. -/
theorem list?_callFields (name : List Ident) (star : Bool) (args : List Tree) :
    (Fields.list? (callFields name star args) "args").getD [] = args := by
  cases args <;> cases star <;> rfl

theorem call?_callNode (name : List Ident) (star : Bool) (args : List Tree) :
    call? (callNode name star args)
      = name.getLast?.map fun last => ⟨Text.lowered last.name, args⟩ := by
  have hname : call? (callNode name star args)
      = ((name.map identSegment).getLast?.bind segment?).bind fun s =>
          some ⟨Text.lowered s, (Fields.list? (callFields name star args) "args").getD []⟩ := by
    rw [Option.bind_assoc]
    rfl
  rw [hname, list?_callFields, getLast?_segments, Option.bind_map]
  cases name.getLast? <;> rfl

theorem argNodes_eq_map (args : List Arg) :
    argNodes args = (args.filterMap Arg.value?).map exprNode := by
  induction args with
  | nil => rw [argNodes]; rfl
  | cons arg rest ih =>
      cases arg with
      | positional value => rw [argNodes, ih]; rfl
      | named name value => rw [argNodes, ih]; rfl
      | star | qualifiedStar _ | namedStar _ => simp only [argNodes, ih]; rfl

theorem ofTree?_eq_map (t : Tree) :
    Comparison.ofTree? t = (t.object? "A_Expr").map Comparison.mk := by
  cases t <;> rfl

theorem ofTree?_operatorNode (kind name : String) (left : Option Tree) (right : Tree) :
    ∃ c, Comparison.ofTree? (operatorNode kind name left right) = some c ∧
      c.isLike = (kind == likeKind) ∧ c.left? = left ∧ c.right? = some right := by
  refine ⟨⟨operatorFields kind name left right⟩, rfl, ?_⟩
  have hreading := reading_operatorFields kind name left right
  rw [Comparison.reading, Comparison.Reading.mk.injEq] at hreading
  obtain ⟨hkind, -, hleft, hright⟩ := hreading
  refine ⟨?_, hleft, hright⟩
  rw [Comparison.isLike, hkind]
  rfl

/-- What compares has the node of an operator with its operands. -/
theorem Sql.Expr.Compares.exprNode_eq {e : Expr} {like : Bool} {left right : Option Tree}
    (h : e.Compares like left right) :
    ∃ kind name operand, exprNode e = operatorNode kind name left operand ∧
      right = some operand ∧ like = (kind == likeKind) := by
  cases h with
  | binary left operator right =>
      refine ⟨"AEXPR_OP", operator, exprNode right, ?_, rfl, rfl⟩
      rw [exprNode, built]; rfl
  | unary operator operand =>
      refine ⟨"AEXPR_OP", operator, exprNode operand, ?_, rfl, rfl⟩
      rw [exprNode, built]; rfl
  | like negated subject pattern =>
      refine ⟨"AEXPR_LIKE", if negated then "!~~" else "~~", exprNode pattern, ?_, rfl, rfl⟩
      rw [exprNode, built]; rfl
  | ilike negated subject pattern =>
      refine ⟨"AEXPR_ILIKE", if negated then "!~~*" else "~~*", exprNode pattern, ?_, rfl, rfl⟩
      rw [exprNode, built]; rfl
  | inList negated subject items =>
      refine ⟨"AEXPR_IN", if negated then "<>" else "=", .list (items.map exprNode), ?_, rfl, rfl⟩
      rw [exprNode, built, exprNodes_eq_map]; rfl
  | between negated subject low high =>
      refine ⟨if negated then "AEXPR_NOT_BETWEEN" else "AEXPR_BETWEEN",
        if negated then "NOT BETWEEN" else "BETWEEN",
        .list [exprNode low, exprNode high], ?_, rfl, ?_⟩
      · rw [exprNode, built]; rfl
      · cases negated <;> rfl

/-! ## The four recognisers -/

section Bare

variable {e : Expr} (hbare : ∀ inner, e ≠ .nested inner)

include hbare

theorem identifier_or_compound_of_label? (hlabel : e.label? = some "ColumnRef") :
    (∃ name, e = .identifier name) ∨ ∃ parts, e = .compound parts := by
  fun_cases Expr.label? e <;> simp_all [Expr.label?]

theorem literal_of_label? (hlabel : e.label? = some "A_Const") : ∃ value, e = .literal value := by
  fun_cases Expr.label? e <;> simp_all [Expr.label?]

theorem call_of_label? (hlabel : e.label? = some "FuncCall") :
    ∃ name args, e = .call name args := by
  fun_cases Expr.label? e <;> simp_all [Expr.label?]

theorem compares_of_label? (hlabel : e.label? = some "A_Expr") :
    ∃ like left right, e.Compares like left right := by
  cases e with
  | nested inner => exact absurd rfl (hbare inner)
  | binary left op right =>
      cases op with
      | symbol operator => exact ⟨_, _, _, .binary left operator right⟩
      | and | or => simp [Expr.label?] at hlabel
  | unary op operand =>
      cases op with
      | symbol operator => exact ⟨_, _, _, .unary operator operand⟩
      | not => simp [Expr.label?] at hlabel
  | like negated subject pattern => exact ⟨_, _, _, .like negated subject pattern⟩
  | ilike negated subject pattern => exact ⟨_, _, _, .ilike negated subject pattern⟩
  | inList negated subject items => exact ⟨_, _, _, .inList negated subject items⟩
  | between negated subject low high => exact ⟨_, _, _, .between negated subject low high⟩
  | literal value => cases value <;> simp [Expr.label?] at hlabel
  | inSubquery negated _ _ => cases negated <;> simp [Expr.label?] at hlabel
  | «exists» negated _ => cases negated <;> simp [Expr.label?] at hlabel
  | identifier _ | compound _ | isNull _ | isNotNull _ | call _ _ | cast _ _ | subquery _
  | special _ _ => simp [Expr.label?] at hlabel

theorem columnName?_exprNode_iff (n : String) :
    columnName? (exprNode e) = some n ↔ e.NamesColumn n := by
  have hname : ∀ name, columnName? (exprNode (.identifier name)) = some name.name := by
    intro name
    rw [exprNode, built]
    exact columnName?_columnRef [name]
  have hparts : ∀ parts, columnName? (exprNode (.compound parts))
      = parts.getLast?.map Ident.name := by
    intro parts
    rw [exprNode, built]
    exact columnName?_columnRef parts
  constructor
  · intro h
    obtain ⟨fields, hfields, -⟩ := Option.bind_eq_some_iff.mp h
    obtain ⟨name, rfl⟩ | ⟨parts, rfl⟩ :=
      identifier_or_compound_of_label? hbare (object?_exprNode_eq_some hfields)
    · rw [hname, Option.some.injEq] at h
      exact .identifier (Ident.foldsTo_iff.mpr h)
    · rw [hparts] at h
      obtain ⟨last, hlast, hn⟩ := Option.map_eq_some_iff.mp h
      exact .compound hlast (Ident.foldsTo_iff.mpr hn)
  · intro h
    cases h with
    | identifier h => rw [hname, Ident.foldsTo_iff.mp h]
    | compound hlast h => rw [hparts, hlast, Option.map_some, Ident.foldsTo_iff.mp h]

theorem constText?_exprNode_iff (t : String) :
    constText? (exprNode e) = some t ↔ e.IsText t := by
  constructor
  · intro h
    obtain ⟨fields, hfields, -⟩ := Option.bind_eq_some_iff.mp h
    obtain ⟨value, rfl⟩ := literal_of_label? hbare (object?_exprNode_eq_some hfields)
    rw [exprNode, built] at h
    cases value with
    | singleQuoted _ => cases h; exact .singleQuoted t
    | escaped _ => cases h; exact .escaped t
    | national _ => cases h; exact .national t
    | dollarQuoted _ => cases h; exact .dollarQuoted t
    | number digits => cases (constText?_numberConst digits).symm.trans h
    | unicode _ | hex _ | bool _ | null | placeholder _ => cases h
  · intro h
    cases h <;> (rw [exprNode, built]; rfl)

theorem call?_exprNode_iff (c : ParseTree.Call) :
    call? (exprNode e) = some c ↔ e.Calls c := by
  have hcall : ∀ name args, call? (exprNode (.call name args))
      = name.getLast?.map fun last =>
          ⟨Text.lowered last.name, (args.filterMap Arg.value?).map exprNode⟩ := by
    intro name args
    rw [exprNode, built, argNodes_eq_map]
    exact call?_callNode name _ _
  constructor
  · intro h
    obtain ⟨fields, hfields, -⟩ := Option.bind_eq_some_iff.mp h
    obtain ⟨name, args, rfl⟩ := call_of_label? hbare (object?_exprNode_eq_some hfields)
    rw [hcall] at h
    obtain ⟨last, hlast, rfl⟩ := Option.map_eq_some_iff.mp h
    exact .call hlast (Ident.foldsTo_iff.mpr rfl) args
  · intro h
    cases h with
    | call hlast h args => rw [hcall, hlast, Option.map_some, Ident.foldsTo_iff.mp h]

theorem ofTree?_exprNode_iff (like : Bool) (left right : Option Tree) :
    (∃ c, Comparison.ofTree? (exprNode e) = some c ∧ c.isLike = like ∧ c.left? = left ∧
        c.right? = right) ↔ e.Compares like left right := by
  constructor
  · rintro ⟨c, hc, rfl, rfl, rfl⟩
    obtain ⟨fields, hfields, -⟩ := Option.map_eq_some_iff.mp ((ofTree?_eq_map _).symm.trans hc)
    obtain ⟨like, left, right, h⟩ := compares_of_label? hbare (object?_exprNode_eq_some hfields)
    -- both readings are of one node, so the comparison found is the one described
    obtain ⟨kind, name, operand, hnode, hright, hlike⟩ := h.exprNode_eq
    obtain ⟨c', hc', hlike', hleft', hright'⟩ := ofTree?_operatorNode kind name left operand
    rw [hnode, hc'] at hc
    cases hc
    rw [hlike', hleft', hright', ← hlike, ← hright]
    exact h
  · intro h
    obtain ⟨kind, name, operand, hnode, rfl, rfl⟩ := h.exprNode_eq
    rw [hnode]
    exact ofTree?_operatorNode kind name left operand

end Bare

/-- The recognisers see an expression, out of its parentheses, for what it is,
and nothing else: a column where one is named, by its text between quotes and in
lower case without them; a text where one is written; a call with the lower-case
name of the function and the trees of the arguments that are expressions; and a
comparison with the trees of its operands. -/
theorem recognisers_agree (e : Expr) :
    (∀ n, columnName? (exprNode e) = some n ↔ e.bare.NamesColumn n) ∧
      (∀ t, constText? (exprNode e) = some t ↔ e.bare.IsText t) ∧
      (∀ c, call? (exprNode e) = some c ↔ e.bare.Calls c) ∧
      ∀ like left right,
        (∃ c, Comparison.ofTree? (exprNode e) = some c ∧ c.isLike = like ∧ c.left? = left ∧
          c.right? = right) ↔ e.bare.Compares like left right := by
  rw [← exprNode_bare e]
  have hbare := bare_ne_nested e
  exact ⟨columnName?_exprNode_iff hbare, constText?_exprNode_iff hbare, call?_exprNode_iff hbare,
    ofTree?_exprNode_iff hbare⟩

end QueryAdvisor
