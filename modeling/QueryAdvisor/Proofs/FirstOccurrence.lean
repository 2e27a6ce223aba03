import Mathlib.Data.List.Induction
import Mathlib.Data.List.Perm.Basic
import QueryAdvisor.Rule.Distinct

/-!
# First occurrences

`distinctFrom` goes along a list with what it has seen already. Only which
elements those are matters, not how often or in which order they came, so what
is left of a longer list is what is left of its beginning followed by what is
new in its end. The laws of `distinct` follow from that and from two facts
about a scan: it keeps exactly what it has not seen, and it keeps nothing
twice.
-/

namespace QueryAdvisor

variable {α : Type} [DecidableEq α]

theorem mem_distinctFrom {seen l : List α} {x : α} :
    x ∈ distinctFrom seen l ↔ x ∈ l ∧ x ∉ seen := by
  induction l generalizing seen with
  | nil => simp [distinctFrom]
  | cons a rest ih =>
      rw [distinctFrom]
      split
      · next ha =>
          rw [ih, List.mem_cons]
          constructor
          · rintro ⟨hx, hseen⟩
            exact ⟨.inr hx, hseen⟩
          · rintro ⟨rfl | hx, hseen⟩
            · exact absurd ha hseen
            · exact ⟨hx, hseen⟩
      · next ha =>
          rw [List.mem_cons, ih, List.mem_cons, List.mem_cons]
          constructor
          · rintro (rfl | ⟨hx, hseen⟩)
            · exact ⟨.inl rfl, ha⟩
            · exact ⟨.inr hx, fun h => hseen (.inr h)⟩
          · rintro ⟨hx, hseen⟩
            by_cases hxa : x = a
            · exact .inl hxa
            · exact .inr ⟨hx.resolve_left hxa, fun h => h.elim hxa hseen⟩

@[simp] theorem mem_distinct {l : List α} {x : α} : x ∈ distinct l ↔ x ∈ l := by
  rw [distinct, mem_distinctFrom]
  exact and_iff_left List.not_mem_nil

theorem nodup_distinctFrom (seen l : List α) : (distinctFrom seen l).Nodup := by
  induction l generalizing seen with
  | nil => exact List.nodup_nil
  | cons a rest ih =>
      rw [distinctFrom]
      split
      · exact ih seen
      · refine List.nodup_cons.mpr ⟨?_, ih (a :: seen)⟩
        intro hmem
        exact (mem_distinctFrom.mp hmem).2 List.mem_cons_self

theorem nodup_distinct (l : List α) : (distinct l).Nodup :=
  nodup_distinctFrom [] l

/-- What is kept stands in the order in which it first occurs. -/
theorem pairwise_idxOf_distinctFrom (seen l : List α) :
    (distinctFrom seen l).Pairwise fun x y => l.idxOf x < l.idxOf y := by
  -- an element that is kept behind `a` is not `a`, so its place is counted from there
  have hshift : ∀ {a : α} {seen rest : List α}, a ∈ seen →
      (distinctFrom seen rest).Pairwise (fun x y => rest.idxOf x < rest.idxOf y) →
      (distinctFrom seen rest).Pairwise fun x y => (a :: rest).idxOf x < (a :: rest).idxOf y := by
    intro a seen rest ha h
    have hne : ∀ x ∈ distinctFrom seen rest, a ≠ x := by
      rintro x hx rfl
      exact (mem_distinctFrom.mp hx).2 ha
    refine h.imp_of_mem fun {x y} hx hy hlt => ?_
    rw [List.idxOf_cons_ne _ (hne x hx), List.idxOf_cons_ne _ (hne y hy)]
    exact Nat.succ_lt_succ hlt
  induction l generalizing seen with
  | nil => exact List.Pairwise.nil
  | cons a rest ih =>
      rw [distinctFrom]
      split
      · next ha => exact hshift ha (ih seen)
      · refine List.pairwise_cons.mpr ⟨?_, hshift List.mem_cons_self (ih (a :: seen))⟩
        intro y hy
        have hne : a ≠ y := by
          rintro rfl
          exact (mem_distinctFrom.mp hy).2 List.mem_cons_self
        rw [List.idxOf_cons_self, List.idxOf_cons_ne _ hne]
        exact Nat.succ_pos _

/-- Of what has been seen only the elements matter. -/
theorem distinctFrom_congr {seen seen' : List α} (h : ∀ x, x ∈ seen ↔ x ∈ seen') (l : List α) :
    distinctFrom seen l = distinctFrom seen' l := by
  induction l generalizing seen seen' with
  | nil => rw [distinctFrom, distinctFrom]
  | cons a rest ih =>
      have hcons : ∀ x, x ∈ a :: seen ↔ x ∈ a :: seen' := by
        intro x
        rw [List.mem_cons, List.mem_cons, h x]
      rw [distinctFrom, distinctFrom, ih h, ih hcons]
      simp only [h a]

/-- A scan of the end goes on with what the beginning has shown. -/
theorem distinctFrom_append (seen a b : List α) :
    distinctFrom seen (a ++ b) = distinctFrom seen a ++ distinctFrom (a ++ seen) b := by
  induction a generalizing seen with
  | nil => rw [List.nil_append, distinctFrom, List.nil_append, List.nil_append]
  | cons x rest ih =>
      rw [List.cons_append, distinctFrom, distinctFrom]
      split
      · next hx =>
          rw [ih]
          refine congrArg (distinctFrom seen rest ++ ·) (distinctFrom_congr (fun y => ?_) b)
          grind
      · rw [ih, List.cons_append]
        refine congrArg (fun l => x :: (distinctFrom (x :: seen) rest ++ l)) ?_
        exact distinctFrom_congr (fun y => by grind) b

theorem distinct_append (a b : List α) : distinct (a ++ b) = distinct a ++ distinctFrom a b := by
  rw [distinct, distinctFrom_append, List.append_nil, distinct]

theorem distinctFrom_eq_nil {seen l : List α} (h : ∀ x ∈ l, x ∈ seen) :
    distinctFrom seen l = [] :=
  List.eq_nil_iff_forall_not_mem.mpr fun x hx =>
    (mem_distinctFrom.mp hx).2 (h x (mem_distinctFrom.mp hx).1)

/-- A list is told from left to right, and an element is passed over when it has
come before. -/
inductive ToldOnce : (all told : List α) → Prop where
  | nil : ToldOnce [] []
  | fresh {all told : List α} {x : α} (h : ToldOnce all told) (hx : x ∉ all) :
      ToldOnce (all ++ [x]) (told ++ [x])
  | again {all told : List α} {x : α} (h : ToldOnce all told) (hx : x ∈ all) :
      ToldOnce (all ++ [x]) told

/-- One more element is kept when it has not come before. -/
theorem distinct_concat (l : List α) (x : α) :
    distinct (l ++ [x]) = if x ∈ l then distinct l else distinct l ++ [x] := by
  rw [distinct_append, distinctFrom, distinctFrom, distinctFrom]
  split
  · rw [List.append_nil]
  · rfl

theorem toldOnce_iff {l told : List α} : ToldOnce l told ↔ told = distinct l := by
  constructor
  · intro h
    induction h with
    | nil => rfl
    | fresh _ hx ih => rw [distinct_concat, if_neg hx, ih]
    | again _ hx ih => rw [distinct_concat, if_pos hx, ih]
  · rintro rfl
    -- the last element decides, so the induction is from the end
    induction l using List.reverseRecOn with
    | nil => exact .nil
    | append_singleton l x ih =>
        rw [distinct_concat]
        split
        · next hx => exact .again ih hx
        · next hx => exact .fresh ih hx

/-- Lists of the same elements have the same first occurrences, in some order. -/
theorem perm_distinct {a b : List α} (h : ∀ x, x ∈ a ↔ x ∈ b) :
    (distinct a).Perm (distinct b) := by
  refine (List.perm_ext_iff_of_nodup (nodup_distinct a) (nodup_distinct b)).mpr fun x => ?_
  rw [mem_distinct, mem_distinct, h x]

end QueryAdvisor
