import QueryAdvisor.Proofs.Recognised

/-!
# Chains of `AND` and `OR`

A chain of one of these operators is one node with all its operands, so the tree
of a condition has another shape than the condition. Here both are given a value
in SQL's logic of three truth values, and the values agree whatever the parts
that are no boolean operators are taken to be. Parentheses end a chain and leave
no node: `a AND (b AND c)` has two arguments, of which the second is a chain of
its own, and its value is that of `a AND b AND c`.

An expression is built together with what it contributes to a chain around it,
and the induction has to speak of both. That the arguments are right is a fact
about the syntax alone: they are the trees of the operands of the longest chain,
from left to right. The same list comes out of a loop over pending expressions
that takes a link apart and puts its left side on top; what is pending and what
is done make up the same list at every turn.
-/

namespace QueryAdvisor

open ParseTree Sql

/-! ## Three truth values -/

/-- A truth value of SQL. -/
inductive Truth where
  | no
  | unknown
  | yes
deriving DecidableEq, Repr

namespace Truth

def not : Truth → Truth
  | .no => .yes
  | .unknown => .unknown
  | .yes => .no

def and : Truth → Truth → Truth
  | .no, _ | _, .no => .no
  | .yes, .yes => .yes
  | _, _ => .unknown

def or : Truth → Truth → Truth
  | .yes, _ | _, .yes => .yes
  | .no, .no => .no
  | _, _ => .unknown

end Truth

/-- The operators that make chains. -/
inductive Connective where
  | and
  | or
deriving DecidableEq, Repr

namespace Connective

def op : Connective → BinaryOp
  | .and => .and
  | .or => .or

/-- What a chain is called in a tree. -/
def label : Connective → String
  | .and => "AND_EXPR"
  | .or => "OR_EXPR"

/-- The value of a chain of two. -/
def combine : Connective → Truth → Truth → Truth
  | .and => Truth.and
  | .or => Truth.or

/-- The value of a chain without operands. -/
def neutral : Connective → Truth
  | .and => .yes
  | .or => .no

/-- The value of a chain of any length. -/
def value (c : Connective) : List Truth → Truth
  | [] => c.neutral
  | x :: rest => c.combine x (c.value rest)

theorem combine_neutral (c : Connective) (x : Truth) : c.combine x c.neutral = x := by
  cases c <;> cases x <;> rfl

theorem neutral_combine (c : Connective) (x : Truth) : c.combine c.neutral x = x := by
  cases c <;> cases x <;> rfl

theorem combine_assoc (c : Connective) (x y z : Truth) :
    c.combine (c.combine x y) z = c.combine x (c.combine y z) := by
  cases c <;> cases x <;> cases y <;> cases z <;> rfl

theorem value_singleton (c : Connective) (x : Truth) : c.value [x] = x := by
  rw [value, value, combine_neutral]

theorem value_append (c : Connective) (a b : List Truth) :
    c.value (a ++ b) = c.combine (c.value a) (c.value b) := by
  induction a with
  | nil => rw [List.nil_append, value, neutral_combine]
  | cons x rest ih => rw [List.cons_append, value, ih, value, combine_assoc]

end Connective

/-! ## The value of a tree and of an expression -/

mutual

/-- The value of a tree, when the trees that are no boolean operators have the
values of an assignment. -/
def Tree.truth (v : Tree → Truth) : Tree → Truth
  | .object [("BoolExpr", .object [("boolop", .text "AND_EXPR"), ("args", .list args)])] =>
      Connective.and.value (truths v args)
  | .object [("BoolExpr", .object [("boolop", .text "OR_EXPR"), ("args", .list args)])] =>
      Connective.or.value (truths v args)
  | .object [("BoolExpr", .object [("boolop", .text "NOT_EXPR"), ("args", .list [arg])])] =>
      (truth v arg).not
  | t => v t

def Tree.truths (v : Tree → Truth) : List Tree → List Truth
  | [] => []
  | t :: rest => truth v t :: truths v rest

end

/-- The value of an expression by its `AND`, `OR`, `NOT` and parentheses. What is
written `NOT EXISTS` or `NOT IN` with a query denies the form without `NOT`. -/
def Sql.Expr.truth (v : Tree → Truth) : Expr → Truth
  | .nested inner => inner.truth v
  | .binary left .and right => (left.truth v).and (right.truth v)
  | .binary left .or right => (left.truth v).or (right.truth v)
  | .unary .not operand => (operand.truth v).not
  | .exists true query => (v (exprNode (.exists false query))).not
  | .inSubquery true subject query => (v (exprNode (.inSubquery false subject query))).not
  | e => v (exprNode e)

variable {v : Tree → Truth}

theorem truths_append (a b : List Tree) :
    Tree.truths v (a ++ b) = Tree.truths v a ++ Tree.truths v b := by
  induction a with
  | nil => rw [List.nil_append, Tree.truths, List.nil_append]
  | cons t rest ih => rw [List.cons_append, Tree.truths, ih, Tree.truths, List.cons_append]

theorem truth_boolExpr (c : Connective) (args : List Tree) :
    (boolExpr c.label args).truth v = c.value (Tree.truths v args) := by
  cases c <;> rw [boolExpr, node, Connective.label, Tree.truth]

theorem truth_not (arg : Tree) : (boolExpr "NOT_EXPR" [arg]).truth v = (arg.truth v).not := by
  rw [boolExpr, node, Tree.truth]

theorem truth_node {kind : String} (h : kind ≠ "BoolExpr") (fields : Fields) :
    (node kind fields).truth v = v (node kind fields) := by
  rw [node, Tree.truth] <;> simp [h]

theorem truth_exprNode_of_label? {e : Expr} (h : e.label? ≠ some "BoolExpr") :
    (exprNode e).truth v = v (exprNode e) := by
  obtain ⟨-, hnull⟩ | ⟨kind, fields, hlabel, hnode⟩ := exprNode_eq_node e
  · rw [hnull, Tree.truth] <;> simp
  · rw [hnode]
    refine truth_node ?_ fields
    rintro rfl
    exact h hlabel

/-- An expression that is written as a denial has the value of one. -/
theorem truth_denial {e positive : Expr}
    (hnode : exprNode e = boolExpr "NOT_EXPR" [exprNode positive])
    (hlabel : positive.label? ≠ some "BoolExpr") :
    (exprNode e).truth v = (v (exprNode positive)).not := by
  rw [hnode, truth_not, truth_exprNode_of_label? hlabel]

/-! ## The operands of a chain -/

/-- The operands of the longest chain of an operator that an expression is,
parentheses not opened, from left to right. -/
def Sql.Expr.operands (c : Connective) : Expr → List Expr
  | .binary left op right =>
      if op = c.op then left.operands c ++ right.operands c else [.binary left op right]
  | e => [e]

/-- The number of operators of that chain. -/
def Sql.Expr.links (c : Connective) : Expr → Nat
  | .binary left op right => if op = c.op then left.links c + right.links c + 1 else 0
  | _ => 0

/-- What an expression contributes to a chain around it. -/
def ParseTree.Built.args (b : Built) : Connective → List Tree
  | .and => b.conjuncts
  | .or => b.disjuncts

section Chain

variable (c : Connective)

theorem operands_link (left right : Expr) :
    (Expr.binary left c.op right).operands c = left.operands c ++ right.operands c := by
  rw [Expr.operands, if_pos rfl]

theorem operands_of_not_link {c : Connective} {e : Expr}
    (h : ∀ left right, e ≠ .binary left c.op right) : e.operands c = [e] := by
  fun_cases Expr.operands c e with
  | case1 left right => exact absurd rfl (h left right)
  | case2 left op right hop => rfl
  | case3 => rfl

theorem ne_link_of_mem_operands (e : Expr) {operand : Expr} (h : operand ∈ e.operands c)
    (left right : Expr) : operand ≠ .binary left c.op right := by
  fun_induction Expr.operands c e with
  | case1 l r ihl ihr =>
      rcases List.mem_append.mp h with hl | hr
      · exact ihl hl
      · exact ihr hr
  | case2 l op r hop =>
      rw [List.mem_singleton.mp h]
      rintro ⟨⟩
      exact hop rfl
  | case3 e hbinary =>
      rw [List.mem_singleton.mp h]
      exact hbinary left c.op right

theorem length_operands (e : Expr) : (e.operands c).length = e.links c + 1 := by
  fun_induction Expr.operands c e with
  | case1 left right ihl ihr =>
      rw [List.length_append, ihl, ihr, Expr.links, if_pos rfl]
      omega
  | case2 left op right hop => rw [Expr.links, if_neg hop, List.length_singleton]
  | case3 e hbinary => rw [Expr.links, List.length_singleton]; exact hbinary

end Chain

/-! ## What is built -/

theorem args_link (c : Connective) (left right : Expr) :
    (built (.binary left c.op right)).args c = (built left).args c ++ (built right).args c := by
  cases c <;> (rw [Connective.op, built]; rfl)

theorem exprNode_link (c : Connective) (left right : Expr) :
    exprNode (.binary left c.op right)
      = boolExpr c.label ((built left).args c ++ (built right).args c) := by
  cases c <;> (rw [Connective.op, exprNode, built]; rfl)

theorem args_of_not_link {c : Connective} {e : Expr}
    (h : ∀ left right, e ≠ .binary left c.op right) : (built e).args c = [exprNode e] := by
  cases e with
  | binary left op right =>
      cases op with
      | and =>
          cases c with
          | and => exact absurd rfl (h left right)
          | or => rw [exprNode, built]; rfl
      | or =>
          cases c with
          | and => rw [exprNode, built]; rfl
          | or => exact absurd rfl (h left right)
      | symbol _ => rw [exprNode, built]; cases c <;> rfl
  | unary op operand => cases op <;> (rw [exprNode, built]; cases c <;> rfl)
  | identifier _ | compound _ | literal _ | nested _ | like _ _ _ | ilike _ _ _ | inList _ _ _
  | inSubquery _ _ _ | between _ _ _ _ | isNull _ | isNotNull _ | call _ _ | cast _ _
  | subquery _ | «exists» _ _ | special _ _ => rw [exprNode, built]; cases c <;> rfl

theorem args_built (c : Connective) (e : Expr) :
    (built e).args c = (e.operands c).map exprNode := by
  fun_induction Expr.operands c e with
  | case1 left right ihl ihr => rw [args_link, ihl, ihr, List.map_append]
  | case2 left op right hop =>
      refine args_of_not_link fun l r h => hop ?_
      cases h
      rfl
  | case3 e hbinary => exact args_of_not_link fun l r => hbinary l c.op r

/-! ## The same list by a loop -/

/-- What is left to do for some pending expressions: a turn of the loop takes a
link apart or lays an operand aside. -/
def turns (c : Connective) : List Expr → Nat
  | [] => 0
  | e :: rest => 2 * e.links c + 1 + turns c rest

/-- Collects the trees of the operands of the pending expressions behind those that
are already done. A link is replaced by its two sides, the left one on top. -/
def gather (c : Connective) (pending : List Expr) (done : List Tree) : List Tree :=
  match pending with
  | [] => done
  | .binary left op right :: rest =>
      if op = c.op then gather c (left :: right :: rest) done
      else gather c rest (done ++ [exprNode (.binary left op right)])
  | e :: rest => gather c rest (done ++ [exprNode e])
termination_by turns c pending
decreasing_by
  · next hop =>
      simp only [turns, Expr.links, if_pos hop]
      omega
  · simp only [turns]
    omega
  · simp only [turns]
    omega

/-- At every turn, what is done and what is pending make up the same list. -/
theorem gather_eq_append (c : Connective) (pending : List Expr) (done : List Tree) :
    gather c pending done = done ++ (pending.flatMap (Expr.operands c)).map exprNode := by
  fun_induction gather c pending done with
  | case1 done => rw [List.flatMap_nil, List.map_nil, List.append_nil]
  | case2 done left right rest ih =>
      rw [ih, List.flatMap_cons, List.flatMap_cons, List.flatMap_cons, operands_link,
        List.append_assoc]
  | case3 done left op right rest hop ih =>
      have hone : (Expr.binary left op right).operands c = [.binary left op right] := by
        rw [Expr.operands, if_neg hop]
      rw [ih, List.flatMap_cons, hone, List.map_append, List.map_singleton, List.append_assoc]
  | case4 done e rest hbinary ih =>
      have hone : e.operands c = [e] :=
        operands_of_not_link fun left right => hbinary left c.op right
      rw [ih, List.flatMap_cons, hone, List.map_append, List.map_singleton, List.append_assoc]

/-! ## Values agree -/

/-- The value of an expression is that of its node, and that of what it
contributes to a chain. -/
structure Sql.Expr.Agrees (v : Tree → Truth) (e : Expr) : Prop where
  node : (exprNode e).truth v = e.truth v
  args : ∀ c : Connective, c.value (Tree.truths v ((built e).args c)) = e.truth v

theorem truth_link (c : Connective) (left right : Expr) :
    (Expr.binary left c.op right).truth v = c.combine (left.truth v) (right.truth v) := by
  cases c <;> rw [Connective.op, Expr.truth, Connective.combine]

/-- Where an expression contributes its node, the value of the node decides. -/
theorem value_args_of_not_link {c : Connective} {e : Expr}
    (hnode : (exprNode e).truth v = e.truth v)
    (h : ∀ left right, e ≠ .binary left c.op right) :
    c.value (Tree.truths v ((built e).args c)) = e.truth v := by
  rw [args_of_not_link h, Tree.truths, Tree.truths, Connective.value_singleton, hnode]

theorem Sql.Expr.Agrees.of_node {e : Expr} (hnode : (exprNode e).truth v = e.truth v)
    (h : ∀ (c : Connective) left right, e ≠ .binary left c.op right) : e.Agrees v :=
  ⟨hnode, fun c => value_args_of_not_link hnode (h c)⟩

theorem Sql.Expr.Agrees.link (c : Connective) {left right : Expr} (hl : left.Agrees v)
    (hr : right.Agrees v) : (Expr.binary left c.op right).Agrees v := by
  have hargs : c.value (Tree.truths v ((built left).args c ++ (built right).args c))
      = (Expr.binary left c.op right).truth v := by
    rw [truths_append, Connective.value_append, hl.args, hr.args, truth_link]
  have hnode : (exprNode (.binary left c.op right)).truth v
      = (Expr.binary left c.op right).truth v := by
    rw [exprNode_link, truth_boolExpr, hargs]
  refine ⟨hnode, fun d => ?_⟩
  by_cases hd : d = c
  · rw [hd, args_link, hargs]
  · -- a chain of the other operator takes the whole link as one operand
    refine value_args_of_not_link hnode fun l r h => hd ?_
    rw [Expr.binary.injEq] at h
    cases c <;> cases d <;> simp_all [Connective.op]

theorem agrees (v : Tree → Truth) (e : Expr) : e.Agrees v := by
  match e with
  | .binary left .and right => exact .link .and (agrees v left) (agrees v right)
  | .binary left .or right => exact .link .or (agrees v left) (agrees v right)
  | .nested inner =>
      refine .of_node ?_ (by simp)
      rw [exprNode_nested, (agrees v inner).node, Expr.truth]
  | .unary .not operand =>
      refine .of_node ?_ (by simp)
      rw [exprNode, built, Expr.truth, ← (agrees v operand).node]
      exact truth_not _
  | .exists true query =>
      refine .of_node ?_ (by simp)
      rw [Expr.truth]
      refine truth_denial ?_ (by simp [Expr.label?])
      rw [exprNode, exprNode, built, built]
      rfl
  | .inSubquery true subject query =>
      refine .of_node ?_ (by simp)
      rw [Expr.truth]
      refine truth_denial ?_ (by simp [Expr.label?])
      rw [exprNode, exprNode, built, built]
      rfl
  | .identifier _ | .compound _ | .binary _ (.symbol _) _ | .unary (.symbol _) _ | .like ..
  | .ilike .. | .inList .. | .inSubquery false .. | .between .. | .isNull _ | .isNotNull _
  | .call .. | .cast .. | .subquery _ | .exists false _ | .special .. =>
      refine .of_node ?_ ?_
      · rw [Expr.truth, truth_exprNode_of_label?] <;> simp [Expr.label?]
      · rintro (_ | _) <;> simp [Connective.op]
  | .literal value =>
      refine .of_node ?_ (by simp)
      rw [Expr.truth, truth_exprNode_of_label?] <;> cases value <;> simp [Expr.label?]

/-- The tree of an expression has the value of the expression, whatever value is
given to the trees that are no boolean operators. And for either operator, what
is collected for a chain are the trees of its operands from left to right: none
of them continues the chain, and there is one more than the chain has operators.
These are the arguments of the chain's node. -/
theorem chains_keep_meaning_and_order (e : Expr) :
    (∀ v, (exprNode e).truth v = e.truth v) ∧
      ∀ c : Connective,
        gather c [e] [] = (e.operands c).map exprNode ∧
        (built e).args c = (e.operands c).map exprNode ∧
        (∀ operand ∈ e.operands c, ∀ left right, operand ≠ .binary left c.op right) ∧
        (e.operands c).length = e.links c + 1 ∧
        ∀ left right, e = .binary left c.op right →
          exprNode e = boolExpr c.label ((e.operands c).map exprNode) := by
  refine ⟨fun v => (agrees v e).node, fun c => ⟨?_, args_built c e, ?_, length_operands c e, ?_⟩⟩
  · rw [gather_eq_append, List.flatMap_singleton, List.nil_append]
  · exact fun operand hmem => ne_link_of_mem_operands c e hmem
  · rintro left right rfl
    rw [exprNode_link, ← args_link, args_built]

end QueryAdvisor
