import Mathlib.Data.List.Forall2
import QueryAdvisor.Proofs.ReaderOutcome

/-!
# Reading back the texts of a tree

The reader of values opens a limited number of levels. A tree that needs no
more comes back from every one of its texts, and a tree that needs more is
refused for its depth alone: what stands in front of the place where the
limit is passed is read without a fault.

Both are one statement, `takes_value`, whose right hand side is `Tree.within`.
The induction is over the spelling of the tree. The two loops, over items and
over fields, are described beforehand for parts about which nothing is known
but what the reader makes of each of them.
-/

namespace QueryAdvisor

namespace Tree

mutual

/-- How many levels of lists and objects a tree has. -/
def height : Tree → Nat
  | .list items => heightItems items + 1
  | .object fields => heightFields fields + 1
  | _ => 0

def heightItems : List Tree → Nat
  | [] => 0
  | t :: rest => max (height t) (heightItems rest)

def heightFields : List (String × Tree) → Nat
  | [] => 0
  | (_, t) :: rest => max (height t) (heightFields rest)

end

/-- A tree, unless it has more levels than may be opened. -/
def within (depth : Nat) (t : Tree) : Except Json.Cause Tree :=
  if t.height ≤ depth then .ok t else .error .tooDeep

end Tree

namespace Json

/-- The values of some outcomes, or the first fault among them. -/
def inOrder {α : Type} : List (Except Cause α) → Except Cause (List α)
  | [] => .ok []
  | .ok a :: rest => (inOrder rest).map (a :: ·)
  | .error cause :: _ => .error cause

theorem inOrder_within (depth : Nat) (items : List Tree) :
    inOrder (items.map (Tree.within depth))
      = if Tree.heightItems items ≤ depth then .ok items else .error .tooDeep := by
  induction items with
  | nil => simp [inOrder, Tree.heightItems]
  | cons t rest ih =>
      simp only [List.map_cons, Tree.within, Tree.heightItems, Nat.max_le]
      by_cases ht : t.height ≤ depth
      · simp only [ht, if_true, true_and, inOrder, ih]
        split <;> rfl
      · simp only [ht, if_false, false_and, inOrder]

/-! ## Items -/

/-- A text that can stand as an item. -/
def Starts (v : List Char) : Prop :=
  ∃ c cs, v = c :: cs ∧ isSpace c = false ∧ c ≠ ']'

theorem gives_moreItems {first : Bool} {l v : List Char} (hl : Lead first l) (hv : Starts v)
    (text : List Char) : Gives (moreItems first) (l ++ (v ++ text)) (.ok (true, v ++ text)) := by
  obtain ⟨c, cs, rfl, hspace, hclose⟩ := hv
  cases hl with
  | first ha =>
      refine Gives.token ha hspace ?_
      split
      next h => cases h
      next h => exact absurd (Option.some.inj h) hclose
      next => exact gives_pure true _
  | comma ha hb =>
      rw [List.append_assoc]
      refine Gives.token ha (by decide) ((gives_advance ',' _).bind (Gives.token hb hspace ?_))
      split
      next h => exact absurd (Option.some.inj h) hclose
      next => exact gives_pure true _
      next h => cases h

section Items

variable {α : Type} {item : Reader α} {read : List α} {bound : Nat}

theorem gives_itemsOf_close {a : List Char} (ha : Space a) (rest : List Char) :
    Gives (itemsOf item (bound + 1) read) (a ++ ']' :: rest) (.ok (read.reverse, rest)) := by
  refine (gives_moreItems_close ha rest).bind ?_
  exact (gives_advance ']' rest).bind (gives_pure _ rest)

theorem gives_itemsOf_item {l v text : List Char} {result : Except Cause (List α × List Char)}
    (hl : Lead read.isEmpty l) (hv : Starts v)
    (h : Gives (item >>= fun a => itemsOf item bound (a :: read)) (v ++ text) result) :
    Gives (itemsOf item (bound + 1) read) (l ++ (v ++ text)) result :=
  (gives_moreItems hl hv text).bind h

/-- The loop reads the items one after the other and stops at the first that is
refused. -/
theorem gives_itemsOf {vs : List (List Char)} {results : List (Except Cause α)} {cs : List Char}
    (hvs : List.Forall₂ (fun v r => Starts v ∧ Takes item v r) vs results)
    (hcs : Elements read.isEmpty vs cs) (hbound : vs.length < bound) (rest : List Char) :
    Gives (itemsOf item bound read) (cs ++ ']' :: rest)
      ((inOrder results).map fun as => (read.reverse ++ as, rest)) := by
  induction hvs generalizing read cs bound with
  | nil =>
      obtain ⟨bound, rfl⟩ : ∃ b, bound = b + 1 := ⟨bound - 1, by omega⟩
      cases hcs with
      | nil ha =>
          rw [inOrder, Except.map, List.append_nil]
          exact gives_itemsOf_close ha rest
  | @cons v r vs results hv hvs ih =>
      obtain ⟨bound, rfl⟩ : ∃ b, bound = b + 1 := ⟨bound - 1, by omega⟩
      cases hcs with
      | @cons _ l _ cs _ hl hcs =>
          have hends : Ends (cs ++ ']' :: rest) := hcs.ends (ends_cons _ (by decide))
          have hitem := hv.2 [] _ space_nil hends
          rw [List.append_assoc, List.append_assoc]
          refine gives_itemsOf_item hl hv.1 ?_
          cases r with
          | error cause => exact hitem.bind_error
          | ok a =>
              have hbound : vs.length < bound := by
                rw [List.length_cons] at hbound
                omega
              have hresults : (inOrder (.ok a :: results)).map (fun as => (read.reverse ++ as, rest))
                  = (inOrder results).map fun as => ((a :: read).reverse ++ as, rest) := by
                rw [inOrder]
                cases inOrder results with
                | error cause => rfl
                | ok as => simp only [Except.map, List.reverse_cons, List.append_assoc,
                    List.cons_append, List.nil_append]
              rw [hresults]
              exact hitem.bind (ih hcs hbound)

end Items

/-! ## Fields -/

section FieldLoop

variable {value : Reader Tree} {read : Fields} {bound : Nat} {first : Bool}

theorem gives_fields_close {a : List Char} (ha : Space a) (rest : List Char) :
    Gives (fields value (bound + 1) first read) (a ++ '\x7d' :: rest) (.ok (read, rest)) := by
  refine (gives_moreFields_close ha rest).bind ?_
  exact (gives_advance '\x7d' rest).bind (gives_pure _ rest)

theorem gives_fields_field {l k a text : List Char} {key : String}
    {result : Except Cause (Fields × List Char)} (hl : Lead first l) (hk : Literal key k)
    (ha : Space a)
    (h : Gives (value >>= fun t => fields value bound false (read.put key t)) text result) :
    Gives (fields value (bound + 1) first read) (l ++ (k ++ (a ++ ':' :: text))) result := by
  have hkey := gives_literalText hk (a ++ ':' :: text)
  obtain ⟨tail, rfl⟩ := hk.eq_cons
  exact (gives_moreFields hl _).bind (hkey.bind ((gives_colon ha text).bind h))

end FieldLoop

theorem put_of_not_mem {read : Fields} {key : String} (h : key ∉ read.keys) (t : Tree) :
    read.put key t = read ++ [(key, t)] := by
  induction read with
  | nil => rfl
  | cons f rest ih =>
      obtain ⟨k, v⟩ := f
      rw [Fields.keys, List.map_cons, List.mem_cons, not_or] at h
      rw [Fields.put, if_neg (Ne.symm h.1), ih h.2, List.cons_append]

/-- The loop reads the fields one after the other, each under a new key, and
stops at the first value that is too deep. -/
theorem gives_fields {value : Reader Tree} {depth bound : Nat} {first : Bool} {read fs : Fields}
    {es : List (String × List Char)} {cs : List Char}
    (hes : List.Forall₂ (fun f e => f.1 = e.1 ∧ Takes value e.2 (f.2.within depth)) fs es)
    (hcs : Members first es cs) (hkeys : (read ++ fs).keys.Nodup) (hbound : es.length < bound)
    (rest : List Char) :
    Gives (fields value bound first read) (cs ++ '\x7d' :: rest)
      (if Tree.heightFields fs ≤ depth then .ok (read ++ fs, rest) else .error .tooDeep) := by
  induction hes generalizing read cs bound first with
  | nil =>
      obtain ⟨bound, rfl⟩ : ∃ b, bound = b + 1 := ⟨bound - 1, by omega⟩
      cases hcs with
      | nil ha =>
          rw [Tree.heightFields, if_pos (Nat.zero_le _), List.append_nil]
          exact gives_fields_close ha rest
  | @cons f e fs es he hes ih =>
      obtain ⟨bound, rfl⟩ : ∃ b, bound = b + 1 := ⟨bound - 1, by omega⟩
      obtain ⟨key, t⟩ := f
      obtain ⟨rfl, ht⟩ : key = e.1 ∧ Takes value e.2 (t.within depth) := he
      cases hcs with
      | @cons _ l k a b v cs key _ hl hk ha hb hcs =>
          have hends : Ends (cs ++ '\x7d' :: rest) := hcs.ends (ends_cons _ (by decide))
          have hvalue := ht b _ hb hends
          simp only [List.append_assoc, List.cons_append]
          refine gives_fields_field hl hk ha ?_
          rw [Tree.heightFields]
          by_cases hdepth : t.height ≤ depth
          · have hnew : key ∉ read.keys := by
              intro hmem
              rw [Fields.keys, List.map_append, List.nodup_append] at hkeys
              exact hkeys.2.2 key hmem key (by simp) rfl
            have happend : read ++ (key, t) :: fs = read.put key t ++ fs := by
              rw [put_of_not_mem hnew, List.append_assoc, List.cons_append, List.nil_append]
            have hbound : es.length < bound := by
              rw [List.length_cons] at hbound
              omega
            rw [Tree.within, if_pos hdepth] at hvalue
            rw [happend] at hkeys ⊢
            simp only [Nat.max_le, hdepth, true_and]
            exact hvalue.bind (ih hcs hkeys hbound)
          · rw [Tree.within, if_neg hdepth] at hvalue
            rw [if_neg (by omega)]
            exact hvalue.bind_error

/-! ## Scalars -/

theorem Digits.cons {ds : List Char} (h : Digits ds) :
    ∃ c cs, ds = c :: cs ∧ c.isDigit = true := by
  obtain ⟨c, cs, rfl⟩ := List.exists_cons_of_ne_nil h.1
  exact ⟨c, cs, rfl, h.2 c List.mem_cons_self⟩

/-- A significand is absorbed whole when all of it fits. -/
theorem absorb_of_lt (ds : List Char) (significand : Nat)
    (h : Nat.ofDigitChars 10 ds significand < wordBound) :
    absorb significand ds = (Nat.ofDigitChars 10 ds significand, 0) := by
  induction ds generalizing significand with
  | nil => rfl
  | cons d rest ih =>
      rw [Nat.ofDigitChars_cons] at h ⊢
      -- what is read so far is never more than the whole
      have hle : ∀ n, n ≤ Nat.ofDigitChars 10 rest n := by
        intro n
        rw [Nat.ofDigitChars_eq_ofDigitChars_zero]
        have := Nat.le_mul_of_pos_left n (Nat.pow_pos (n := rest.length) (show 0 < 10 by decide))
        omega
      have := hle (10 * significand + (d.toNat - '0'.toNat))
      rw [absorb, if_neg (by omega), ih _ h]

theorem gives_continued (negative : Bool) (n : Nat) {rest : List Char} (hrest : Ends rest) :
    Gives (numeral.continued negative n 0) rest (.ok (whole negative n, rest)) := by
  refine (gives_peek? rest).bind ?_
  split
  next h => exact absurd rfl (hrest _ h).2.1
  next h => exact absurd rfl (hrest _ h).2.2.1
  next h => exact absurd rfl (hrest _ h).2.2.2
  next => exact gives_pure _ rest

theorem gives_numeral {n : Nat} (hn : n < wordBound) (negative : Bool) {rest : List Char}
    (hrest : Ends rest) :
    Gives (numeral negative) (Nat.toDigits 10 n ++ rest) (.ok (whole negative n, rest)) := by
  obtain ⟨c, cs, hcs, hc⟩ := (digits_toDigits n).cons
  have hdigits := gives_digits (digits_toDigits n).2 fun c hc => (hrest c hc).1
  have habsorb := absorb_of_lt (Nat.toDigits 10 n) 0 (by rwa [Nat.ofDigitChars_ten_toDigits])
  rw [Nat.ofDigitChars_ten_toDigits] at habsorb
  refine (gives_peek? _).bind ?_
  rw [hcs, List.cons_append, List.head?_cons]
  simp only [hc, Bool.not_true, Bool.false_eq_true, if_false]
  by_cases hzero : c = '0'
  · -- only zero itself starts with this digit
    have hn0 : n = 0 := by
      by_contra h
      exact head?_toDigits h (by rw [hcs, hzero]; rfl)
    subst hn0
    obtain rfl : cs = [] := (List.cons.inj hcs).2.symm
    rw [if_pos hzero, List.nil_append]
    refine (gives_advance c rest).bind ((gives_peek? rest).bind ?_)
    split
    next d hd =>
      rw [(hrest d hd).1]
      exact gives_continued negative 0 hrest
    next => exact gives_continued negative 0 hrest
  · rw [if_neg hzero, ← List.cons_append, ← hcs]
    refine hdigits.bind ?_
    simp only [habsorb]
    exact gives_continued negative n hrest

section Scalars

variable (bound : Nat) (nested : Option (Reader Tree))

theorem takes_null : Takes (valueWith bound nested) nullText (.ok .null) := by
  intro space rest hspace _
  refine Gives.token hspace (by decide) ((gives_advance 'n' _).bind ?_)
  exact (gives_restOfWord ['u', 'l', 'l'] rest).bind (gives_pure _ rest)

theorem takes_bool (b : Bool) : Takes (valueWith bound nested) (boolText b) (.ok (.bool b)) := by
  intro space rest hspace _
  cases b with
  | true =>
      refine Gives.token hspace (by decide) ((gives_advance 't' _).bind ?_)
      exact (gives_restOfWord ['r', 'u', 'e'] rest).bind (gives_pure _ rest)
  | false =>
      refine Gives.token hspace (by decide) ((gives_advance 'f' _).bind ?_)
      exact (gives_restOfWord ['a', 'l', 's', 'e'] rest).bind (gives_pure _ rest)

theorem takes_literal {s : String} {v : List Char} (h : Literal s v) :
    Takes (valueWith bound nested) v (.ok (.text s)) := by
  intro space rest hspace _
  have htext := gives_literalText h rest
  obtain ⟨tail, rfl⟩ := h.eq_cons
  exact Gives.token hspace (by decide) (htext.bind (gives_pure _ rest))

theorem isSpace_eq_false_of_isDigit {c : Char} (h : c.isDigit = true) : isSpace c = false := by
  rw [Bool.eq_false_iff]
  intro hspace
  rcases (isSpace_iff c).mp hspace with rfl | rfl | rfl | rfl <;> cases h

/-- A digit is none of the characters that start another value. -/
theorem gives_valueWith_digit {c : Char} {space text : List Char}
    {result : Except Cause (Tree × List Char)} (hspace : Space space) (hc : c.isDigit = true)
    (h : Gives (numeral false >>= fun n => pure (.number n)) (c :: text) result) :
    Gives (valueWith bound nested) (space ++ c :: text) result := by
  refine Gives.token hspace (isSpace_eq_false_of_isDigit hc) ?_
  split
  case h_9 d _ _ _ _ _ _ _ hd =>
    rw [← Option.some.inj hd, if_pos hc]
    exact h
  all_goals
    next hd => cases hd <;> cases hc

theorem takes_integer {n : Int} (h : (Tree.number (.integer n)).Exact) :
    Takes (valueWith bound nested) (integerText n) (.ok (.number (.integer n))) := by
  intro space rest hspace hrest
  obtain ⟨hlow, hhigh⟩ : -(twoTo 63 : Int) ≤ n ∧ n < (twoTo 64 : Int) := h
  have hbounds : twoTo 63 < twoTo 64 := by decide
  have hword : n.natAbs < wordBound := by
    rw [wordBound]
    omega
  rw [integerText]
  split
  · next hneg =>
      have hwhole : whole true n.natAbs = .integer n := by
        rw [whole]
        simp only [Bool.not_true, Bool.false_eq_true, if_false]
        rw [if_pos]
        · rw [show -(n.natAbs : Int) = n by omega]
        · simp only [Bool.and_eq_true, bne_iff_ne, decide_eq_true_eq]
          omega
      rw [← hwhole]
      refine Gives.token hspace (by decide) ((gives_advance '-' _).bind ?_)
      exact (gives_numeral hword true hrest).bind (gives_pure _ rest)
  · next hpos =>
      have hwhole : whole false n.natAbs = .integer n := by
        rw [whole, show ((n.natAbs : Nat) : Int) = n by omega]
        rfl
      obtain ⟨c, cs, hcs, hc⟩ := (digits_toDigits n.natAbs).cons
      have hnumeral := gives_numeral hword false hrest
      rw [hwhole] at hnumeral
      rw [hcs] at hnumeral ⊢
      exact gives_valueWith_digit bound nested hspace hc (hnumeral.bind (gives_pure _ rest))

end Scalars

/-! ## Whole trees -/

theorem NumberText.head {cs : List Char} (h : NumberText cs) :
    ∃ c tail, cs = c :: tail ∧ isSpace c = false ∧ c ≠ ']' ∧ c ≠ 'n' := by
  cases h with
  | positive hw _ _ =>
      obtain ⟨c, tail, rfl, hc⟩ := hw.1.cons
      refine ⟨c, _, rfl, isSpace_eq_false_of_isDigit hc, ?_, ?_⟩
      · rintro rfl
        cases hc
      · rintro rfl
        cases hc
  | negative _ _ _ => exact ⟨'-', _, rfl, by decide, by decide, by decide⟩

/-- How the text of a tree starts. Only null starts with its letter. -/
theorem Spells.head {t : Tree} {v : List Char} (h : Spells t v) :
    ∃ c tail, v = c :: tail ∧ isSpace c = false ∧ c ≠ ']' ∧ (c = 'n' → t = .null) := by
  have hnumber : ∀ {t : Tree} {cs : List Char}, NumberText cs →
      ∃ c tail, cs = c :: tail ∧ isSpace c = false ∧ c ≠ ']' ∧ (c = 'n' → t = .null) := by
    intro t cs hcs
    obtain ⟨c, tail, htail, hspace, hclose, hn⟩ := hcs.head
    exact ⟨c, tail, htail, hspace, hclose, fun hc => absurd hc hn⟩
  cases h with
  | null => exact ⟨'n', _, rfl, by decide, by decide, fun _ => rfl⟩
  | @bool b =>
      cases b with
      | true => exact ⟨'t', _, rfl, by decide, by decide, fun hc => absurd hc (by decide)⟩
      | false => exact ⟨'f', _, rfl, by decide, by decide, fun hc => absurd hc (by decide)⟩
  | integer => exact hnumber (numberText_integerText _)
  | float h => exact hnumber h
  | text h =>
      obtain ⟨tail, rfl⟩ := h.eq_cons
      exact ⟨'"', _, rfl, by decide, by decide, fun hc => absurd hc (by decide)⟩
  | list _ _ => exact ⟨'[', _, rfl, by decide, by decide, fun hc => absurd hc (by decide)⟩
  | object _ _ => exact ⟨'\x7b', _, rfl, by decide, by decide, fun hc => absurd hc (by decide)⟩

theorem Spells.starts {t : Tree} {v : List Char} (h : Spells t v) : Starts v := by
  obtain ⟨c, tail, hv, hspace, hclose, -⟩ := h.head
  exact ⟨c, tail, hv, hspace, hclose⟩

theorem SpellsItems.length_le_size {ts : List Tree} {vs : List (List Char)} (h : SpellsItems ts vs) :
    vs.length ≤ Tree.sizeItems ts := by
  induction ts generalizing vs with
  | nil =>
      cases h
      exact Nat.zero_le _
  | cons t rest ih =>
      cases h with
      | cons _ h =>
          have := ih h
          have := t.size_pos
          rw [Tree.sizeItems, List.length_cons]
          omega

theorem SpellsFields.length_le_size {fs : Fields} {es : List (String × List Char)}
    (h : SpellsFields fs es) : es.length ≤ Tree.sizeFields fs := by
  induction fs generalizing es with
  | nil =>
      cases h
      exact Nat.zero_le _
  | cons f rest ih =>
      cases h with
      | @cons _ t _ _ _ _ h =>
          have := ih h
          have := t.size_pos
          rw [Tree.sizeFields, List.length_cons]
          omega

/-- What holds without looking at the levels that are left holds at any depth. -/
theorem takes_value_scalar {bound depth : Nat} {t : Tree} {v : List Char}
    (h : ∀ nested, Takes (valueWith bound nested) v (.ok t)) (ht : t.height = 0) :
    Takes (value bound depth) v (t.within depth) := by
  rw [Tree.within, ht, if_pos (Nat.zero_le _)]
  cases depth with
  | zero => exact h none
  | succ depth => exact h _

theorem takes_value_list {bound depth : Nat} {ts : List Tree} {vs : List (List Char)}
    {cs : List Char} (hcs : Elements true vs cs) (hbound : vs.length < bound)
    (hvs : ∀ depth, List.Forall₂ (fun v r => Starts v ∧ Takes (value bound depth) v r) vs
      (ts.map (Tree.within depth))) :
    Takes (value bound depth) ('[' :: (cs ++ [']'])) ((Tree.list ts).within depth) := by
  intro space rest hspace _
  rw [Tree.within, Tree.height]
  cases depth with
  | zero =>
      rw [if_neg (by omega)]
      exact Gives.token hspace (by decide) (gives_failNext _ _)
  | succ depth =>
      have hstart : Elements ([] : List Tree).isEmpty vs cs := hcs
      have hitems := gives_itemsOf (hvs depth) hstart hbound rest
      rw [inOrder_within] at hitems
      rw [List.cons_append, List.append_assoc]
      refine Gives.token hspace (by decide) ((gives_advance '[' _).bind ?_)
      by_cases hdepth : Tree.heightItems ts ≤ depth
      · rw [if_pos hdepth] at hitems
        rw [if_pos (by omega)]
        exact hitems.bind (gives_pure _ rest)
      · rw [if_neg hdepth] at hitems
        rw [if_neg (by omega)]
        exact hitems.bind_error

theorem takes_value_object {bound depth : Nat} {fs : Fields} {es : List (String × List Char)}
    {cs : List Char} (hcs : Members true es cs) (hbound : es.length < bound)
    (hkeys : fs.keys.Nodup)
    (hes : ∀ depth, List.Forall₂
      (fun f e => f.1 = e.1 ∧ Takes (value bound depth) e.2 (f.2.within depth)) fs es) :
    Takes (value bound depth) ('\x7b' :: (cs ++ ['\x7d'])) ((Tree.object fs).within depth) := by
  intro space rest hspace _
  rw [Tree.within, Tree.height]
  cases depth with
  | zero =>
      rw [if_neg (by omega)]
      exact Gives.token hspace (by decide) (gives_failNext _ _)
  | succ depth =>
      have hstart : (Fields.keys ([] ++ fs)).Nodup := hkeys
      have hfields := gives_fields (hes depth) hcs hstart hbound rest
      rw [List.cons_append, List.append_assoc]
      refine Gives.token hspace (by decide) ((gives_advance '\x7b' _).bind ?_)
      by_cases hdepth : Tree.heightFields fs ≤ depth
      · rw [if_pos hdepth] at hfields
        rw [if_pos (by omega)]
        exact hfields.bind (gives_pure _ rest)
      · rw [if_neg hdepth] at hfields
        rw [if_neg (by omega)]
        exact hfields.bind_error

mutual

/-- Every text of a tree gives the tree back, or is refused for its depth. -/
theorem takes_value {bound : Nat} {t : Tree} {v : List Char} : Spells t v → t.Exact →
    t.size ≤ bound → ∀ depth, Takes (value bound depth) v (t.within depth)
  | .null, _, _, _ => takes_value_scalar (takes_null bound) rfl
  | .bool, _, _, _ => takes_value_scalar (fun nested => takes_bool bound nested _) rfl
  | .integer, hexact, _, _ =>
      takes_value_scalar (fun nested => takes_integer bound nested hexact) rfl
  | .float _, hexact, _, _ => hexact.elim
  | .text h, _, _, _ => takes_value_scalar (fun nested => takes_literal bound nested h) rfl
  | .list hvs hcs, hexact, hsize, _ => by
      have := hvs.length_le_size
      rw [Tree.size] at hsize
      exact takes_value_list hcs (by omega) (takes_items hvs hexact (by omega))
  | .object hes hcs, hexact, hsize, _ => by
      have := hes.length_le_size
      rw [Tree.size] at hsize
      exact takes_value_object hcs (by omega) hexact.1 (takes_fields hes hexact.2 (by omega))

theorem takes_items {bound : Nat} {ts : List Tree} {vs : List (List Char)} : SpellsItems ts vs →
    Tree.ExactItems ts → Tree.sizeItems ts ≤ bound → ∀ depth,
      List.Forall₂ (fun v r => Starts v ∧ Takes (value bound depth) v r) vs
        (ts.map (Tree.within depth))
  | .nil, _, _, _ => .nil
  | .cons ht h, hexact, hsize, depth => by
      rw [Tree.sizeItems] at hsize
      exact .cons ⟨ht.starts, takes_value ht hexact.1 (by omega) depth⟩
        (takes_items h hexact.2 (by omega) depth)

theorem takes_fields {bound : Nat} {fs : List (String × Tree)} {es : List (String × List Char)} :
    SpellsFields fs es → Tree.ExactFields fs → Tree.sizeFields fs ≤ bound → ∀ depth,
      List.Forall₂ (fun f e => f.1 = e.1 ∧ Takes (value bound depth) e.2 (f.2.within depth)) fs es
  | .nil, _, _, _ => .nil
  | .cons ht h, hexact, hsize, depth => by
      rw [Tree.sizeFields] at hsize
      exact .cons ⟨rfl, takes_value ht hexact.1 (by omega) depth⟩
        (takes_fields h hexact.2 (by omega) depth)

end

end Json

end QueryAdvisor
