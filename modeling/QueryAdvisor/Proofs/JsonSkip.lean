import QueryAdvisor.Proofs.JsonRead

/-!
# Skipping any text of a tree

A value that nobody asked for is skipped with a stack of open brackets instead
of a recursion. What makes the stack tractable is to say what a skip does in
terms of what comes after it: skipping a value and going on is going on
behind the value, with the brackets that were open before. `Passes` says this
and counts the rounds, one for each node of the tree; it composes from the
items of a list to the list, and no stack is ever looked into.

No limit of depth and no range of numbers appears here: every text that the
grammar allows is skipped.
-/

namespace QueryAdvisor.Json

/-! ## Text literals and numbers -/

theorem skipTextBody_of_spelled {s body : List Char} (h : Spelled s body) (rest : List Char)
    (offset : Nat) :
    ∃ offset', skipTextBody (body ++ '"' :: rest) offset = .ok ⟨rest, offset'⟩ := by
  induction h generalizing offset with
  | nil => exact ⟨offset + 1, by rw [List.nil_append, skipTextBody]⟩
  | @plain c s cs hquote hslash hcontrol _ ih =>
      obtain ⟨offset', hrest⟩ := ih (offset + c.utf8Size)
      refine ⟨offset', ?_⟩
      simp (disch := simp [hquote, hslash]) only [List.cons_append, skipTextBody]
      rw [if_neg (Nat.not_lt.mpr hcontrol), hrest]
  | @short c letter s cs hletter _ ih =>
      obtain ⟨hescape, hu⟩ := shortEscape?_of_mem hletter
      obtain ⟨offset', hrest⟩ := ih (offset + 2)
      refine ⟨offset', ?_⟩
      simp (disch := simp [hu]) only [List.cons_append, skipTextBody, hescape]
      exact hrest
  | number hc _ ih =>
      obtain ⟨offset', hrest⟩ := ih (offset + 6)
      refine ⟨offset', ?_⟩
      simp only [List.cons_append, skipTextBody, hc, hrest]
  | pair hn hm _ _ _ _ ih =>
      obtain ⟨offset', hrest⟩ := ih (offset + 6 + 6)
      refine ⟨offset', ?_⟩
      simp only [List.cons_append, skipTextBody, hn, hm, hrest]

theorem gives_skipText {s : String} {k : List Char} (h : Literal s k) (rest : List Char) :
    Gives skipText (k ++ rest) (.ok ((), rest)) := by
  obtain ⟨body, hbody, rfl⟩ := h
  intro offset
  obtain ⟨offset', hread⟩ := skipTextBody_of_spelled hbody rest (offset + 1)
  simp only [skipText, List.cons_append, List.drop_succ_cons, List.drop_zero, List.append_assoc,
    List.nil_append, hread, outcome]

theorem gives_skipDigits {ds rest : List Char} (hds : Digits ds) (hrest : Ends rest)
    {next : Reader Unit} {result : Except Cause (Unit × List Char)} (h : Gives next rest result) :
    Gives (Reader.digits >>= fun digits =>
      if digits.isEmpty = true then Reader.failNext .invalidNumber else next) (ds ++ rest) result := by
  refine (gives_digits hds.2 fun c hc => (hrest c hc).1).bind ?_
  rw [if_neg (by simpa using hds.1)]
  exact h

theorem gives_skipExponent {mark : Char} {sign ds rest : List Char}
    (hsign : sign = [] ∨ sign = ['+'] ∨ sign = ['-']) (hds : Digits ds) (hrest : Ends rest) :
    Gives skipExponent (mark :: (sign ++ ds) ++ rest) (.ok ((), rest)) := by
  have hdigits := gives_skipDigits hds hrest (gives_pure () rest)
  refine (gives_advance mark _).bind ((gives_peek? _).bind ?_)
  rcases hsign with rfl | rfl | rfl
  · obtain ⟨c, cs, rfl, hc⟩ := hds.cons
    have hplus : c ≠ '+' := by rintro rfl; cases hc
    have hminus : c ≠ '-' := by rintro rfl; cases hc
    rw [if_neg (by simp [hplus, hminus])]
    exact hdigits
  · exact (gives_advance '+' _).bind hdigits
  · exact (gives_advance '-' _).bind hdigits

/-- An exponent does not continue the digits in front of it. -/
theorem ExponentPart.not_digit {e rest : List Char} (he : ExponentPart e) (hrest : Ends rest) :
    ∀ c ∈ (e ++ rest).head?, c.isDigit = false := by
  cases he with
  | absent => exact fun c hc => (hrest c hc).1
  | present hmark _ _ =>
      intro c hc
      obtain rfl : _ = c := Option.some.inj hc
      rcases hmark with rfl | rfl <;> rfl

theorem FractionPart.not_digit {f e rest : List Char} (hf : FractionPart f) (he : ExponentPart e)
    (hrest : Ends rest) : ∀ c ∈ (f ++ (e ++ rest)).head?, c.isDigit = false := by
  cases hf with
  | absent => exact he.not_digit hrest
  | present _ =>
      intro c hc
      obtain rfl : _ = c := Option.some.inj hc
      rfl

theorem gives_skipFraction {ds e rest : List Char} (hds : Digits ds) (he : ExponentPart e)
    (hrest : Ends rest) : Gives skipFraction ('.' :: ds ++ (e ++ rest)) (.ok ((), rest)) := by
  refine (gives_advance '.' _).bind ?_
  refine (gives_digits hds.2 (he.not_digit hrest)).bind ?_
  rw [if_neg (by simpa using hds.1)]
  refine (gives_peek? _).bind ?_
  cases he with
  | absent =>
      rw [List.nil_append]
      split
      next h => exact absurd rfl (hrest _ h).2.2.1
      next h => exact absurd rfl (hrest _ h).2.2.2
      next => exact gives_pure () rest
  | present hmark hsign hexp =>
      rcases hmark with rfl | rfl
      · exact gives_skipExponent hsign hexp hrest
      · exact gives_skipExponent hsign hexp hrest

theorem gives_skipContinued {f e rest : List Char} (hf : FractionPart f) (he : ExponentPart e)
    (hrest : Ends rest) : Gives skipNumber.continued (f ++ (e ++ rest)) (.ok ((), rest)) := by
  refine (gives_peek? _).bind ?_
  cases hf with
  | present hds => exact gives_skipFraction hds he hrest
  | absent =>
      rw [List.nil_append]
      cases he with
      | absent =>
          rw [List.nil_append]
          split
          next h => exact absurd rfl (hrest _ h).2.1
          next h => exact absurd rfl (hrest _ h).2.2.1
          next h => exact absurd rfl (hrest _ h).2.2.2
          next => exact gives_pure () rest
      | present hmark hsign hexp =>
          rcases hmark with rfl | rfl
          · exact gives_skipExponent hsign hexp hrest
          · exact gives_skipExponent hsign hexp hrest

theorem gives_skipNumber {w f e rest : List Char} (hw : WholePart w) (hf : FractionPart f)
    (he : ExponentPart e) (hrest : Ends rest) :
    Gives skipNumber (w ++ (f ++ (e ++ rest))) (.ok ((), rest)) := by
  have hcontinued := gives_skipContinued hf he hrest
  have hdigit := hf.not_digit he hrest
  obtain ⟨c, cs, rfl, hc⟩ := hw.1.cons
  refine (gives_peek? _).bind ?_
  by_cases hzero : c = '0'
  · obtain rfl : cs = [] := by
      have := hw.2 (by rw [hzero]; rfl)
      exact (List.cons.inj this).2
    rw [if_pos (by simp [hzero]), List.cons_append, List.nil_append]
    refine (gives_advance c _).bind ((gives_peek? _).bind ?_)
    split
    next d hd =>
      rw [if_neg (by rw [hdigit d hd]; simp)]
      exact hcontinued
    next hnone =>
      -- at the end of the text nothing is left to skip
      rw [List.head?_eq_none_iff, List.append_eq_nil_iff, List.append_eq_nil_iff] at hnone
      obtain ⟨rfl, rfl, rfl⟩ := hnone
      exact gives_pure () []
  · rw [if_neg (by simp [hzero])]
    refine (gives_digits hw.1.2 hdigit).bind ?_
    exact hcontinued

/-! ## One round -/

section Rounds

variable {outer : List Enclosure} {next : Option (List Enclosure) → Reader Unit}
  {space rest : List Char} {result : Except Cause (Unit × List Char)}

/-- A scalar is skipped in one round, and what is open stays open. -/
theorem gives_skipStart_word {c : Char} {word : List Char} (hspace : Space space)
    (hc : (c, word) ∈ [('n', ['u', 'l', 'l']), ('t', ['r', 'u', 'e']), ('f', ['a', 'l', 's', 'e'])])
    (h : Gives (afterValue outer >>= next) rest result) :
    Gives (skipStart outer >>= next) (space ++ (c :: word ++ rest)) result := by
  rw [skipStart, bind_assoc]
  simp only [List.mem_cons, Prod.mk.injEq, List.not_mem_nil, or_false] at hc
  rcases hc with ⟨rfl, rfl⟩ | ⟨rfl, rfl⟩ | ⟨rfl, rfl⟩
  all_goals
    refine Gives.token hspace (by decide) ?_
    simp only [bind_assoc]
    exact (gives_advance _ _).bind ((gives_restOfWord _ rest).bind h)

theorem gives_skipStart_literal {s : String} {v : List Char} (hspace : Space space)
    (hv : Literal s v) (h : Gives (afterValue outer >>= next) rest result) :
    Gives (skipStart outer >>= next) (space ++ (v ++ rest)) result := by
  have htext := gives_skipText hv rest
  obtain ⟨tail, rfl⟩ := hv.eq_cons
  rw [skipStart, bind_assoc]
  refine Gives.token hspace (by decide) ?_
  simp only [bind_assoc]
  exact htext.bind h

theorem gives_skipStart_number {v : List Char} (hspace : Space space) (hv : NumberText v)
    (hrest : Ends rest) (h : Gives (afterValue outer >>= next) rest result) :
    Gives (skipStart outer >>= next) (space ++ (v ++ rest)) result := by
  rw [skipStart, bind_assoc]
  cases hv with
  | negative hw hf he =>
      rw [List.cons_append, List.append_assoc, List.append_assoc]
      refine Gives.token hspace (by decide) ?_
      simp only [bind_assoc]
      exact (gives_advance '-' _).bind ((gives_skipNumber hw hf he hrest).bind h)
  | positive hw hf he =>
      have hnumber := gives_skipNumber hw hf he hrest
      obtain ⟨c, cs, rfl, hc⟩ := hw.1.cons
      simp only [List.append_assoc, List.cons_append] at hnumber ⊢
      refine Gives.token hspace (isSpace_eq_false_of_isDigit hc) ?_
      split
      case h_9 d _ _ _ _ _ _ _ hd =>
        rw [← Option.some.inj hd, if_pos hc]
        simp only [bind_assoc]
        exact hnumber.bind h
      all_goals
        next hd => cases hd <;> cases hc

end Rounds

/-! ## Rounds together -/

/-- Goes on with what is still open, if there is anything. -/
def goOn (bound : Nat) : Option (List Enclosure) → Reader Unit
  | none => pure ()
  | some enclosing => skipWithin bound enclosing

/-- Goes on behind a value, with a number of rounds left. -/
def resume (bound : Nat) (outer : List Enclosure) : Reader Unit :=
  afterValue outer >>= goOn bound

theorem skipWithin_succ (bound : Nat) (enclosing : List Enclosure) :
    skipWithin (bound + 1) enclosing = skipStart enclosing >>= goOn bound := by
  rw [skipWithin]
  refine congrArg (skipStart enclosing >>= ·) (funext fun left => ?_)
  cases left <;> rfl

/-- A text that is skipped in a number of rounds: what comes after the rounds is
what comes behind the text. -/
def Passes (rounds : Nat) (v : List Char) : Prop :=
  ∀ bound outer space rest result, Space space → Ends rest →
    Gives (resume bound outer) rest result →
      Gives (skipWithin (bound + rounds) outer) (space ++ (v ++ rest)) result

section Brackets

variable {bound : Nat} {outer : List Enclosure} {rest : List Char}
  {result : Except Cause (Unit × List Char)}

theorem gives_resume_close {inner : Enclosure} {a : List Char} (ha : Space a)
    (h : Gives (resume bound outer) rest result) :
    Gives (resume bound (inner :: outer)) (a ++ inner.closer :: rest) result := by
  rw [resume, afterValue, bind_assoc]
  cases inner
  all_goals
    refine Gives.token ha (by decide) ?_
    simp only [Enclosure.closer, Char.reduceEq, if_false, if_true, bind_assoc]
    exact (gives_advance _ rest).bind h

/-- Behind a value and a comma the next part is skipped. -/
theorem gives_resume_comma {inner : Enclosure} {a text : List Char} (ha : Space a)
    (h : Gives (skipKey inner >>= fun _ => skipWithin bound (inner :: outer)) text result) :
    Gives (resume bound (inner :: outer)) (a ++ ',' :: text) result := by
  rw [resume, afterValue, bind_assoc]
  refine Gives.token ha (by decide) ?_
  simp only [if_true, bind_assoc, pure_bind]
  exact (gives_advance ',' text).bind h

theorem gives_resume_items {ts : List Tree} {vs : List (List Char)} {cs : List Char}
    (hvs : List.Forall₂ (fun t v => Passes t.size v) ts vs) (hcs : Elements false vs cs)
    (h : Gives (resume bound outer) rest result) :
    Gives (resume (bound + Tree.sizeItems ts) (.list :: outer)) (cs ++ ']' :: rest) result := by
  induction hvs generalizing cs with
  | nil =>
      cases hcs with
      | nil ha => exact gives_resume_close ha h
  | @cons t v ts vs hv hvs ih =>
      cases hcs with
      | @cons _ _ _ cs _ hl hcs =>
          cases hl with
          | comma ha hb =>
              have hends : Ends (cs ++ ']' :: rest) := hcs.ends (ends_cons _ (by decide))
              have hitem := hv _ (.list :: outer) _ _ _ hb hends (ih hcs)
              rw [Nat.add_assoc, Nat.add_comm (Tree.sizeItems ts)] at hitem
              simp only [List.append_assoc, List.cons_append, Tree.sizeItems]
              exact gives_resume_comma ha hitem

theorem gives_skipKey {a k b : List Char} {key : String} (ha : Space a) (hk : Literal key k)
    (hb : Space b) (text : List Char) :
    Gives (skipKey .object) (a ++ (k ++ (b ++ ':' :: text))) (.ok ((), text)) := by
  have htext := gives_skipText hk (b ++ ':' :: text)
  obtain ⟨tail, rfl⟩ := hk.eq_cons
  exact Gives.token ha (by decide) (htext.bind (gives_colon hb text))

theorem gives_resume_fields {fs : Fields} {es : List (String × List Char)} {cs : List Char}
    (hes : List.Forall₂ (fun f e => Passes f.2.size e.2) fs es) (hcs : Members false es cs)
    (h : Gives (resume bound outer) rest result) :
    Gives (resume (bound + Tree.sizeFields fs) (.object :: outer)) (cs ++ '\x7d' :: rest)
      result := by
  induction hes generalizing cs with
  | nil =>
      cases hcs with
      | nil ha => exact gives_resume_close ha h
  | @cons f e fs es he hes ih =>
      obtain ⟨key, t⟩ := f
      cases hcs with
      | @cons _ _ _ _ _ _ cs _ _ hl hk ha hb hcs =>
          cases hl with
          | comma hc hd =>
              have hends : Ends (cs ++ '\x7d' :: rest) := hcs.ends (ends_cons _ (by decide))
              have hitem := he _ (.object :: outer) _ _ _ hb hends (ih hcs)
              rw [Nat.add_assoc, Nat.add_comm (Tree.sizeFields fs)] at hitem
              simp only [List.append_assoc, List.cons_append, Tree.sizeFields]
              exact gives_resume_comma hc ((gives_skipKey hd hk ha _).bind hitem)

/-- An opening bracket and nothing before the closing one. -/
theorem gives_afterOpening_close {inner : Enclosure} {opener : Char} {a : List Char} (ha : Space a)
    (h : Gives (resume bound outer) rest result) :
    Gives (afterOpening inner outer >>= goOn bound) (opener :: (a ++ inner.closer :: rest))
      result := by
  rw [afterOpening, bind_assoc]
  refine (gives_advance opener _).bind ?_
  rw [bind_assoc]
  cases inner
  all_goals
    refine Gives.token ha (by decide) ?_
    simp only [Enclosure.closer, if_true, bind_assoc]
    exact (gives_advance _ rest).bind h

/-- An opening bracket with a part behind it. -/
theorem gives_afterOpening_part {inner : Enclosure} {opener c : Char} {a text : List Char}
    (ha : Space a) (hc : isSpace c = false) (hclose : c ≠ inner.closer)
    (h : Gives (skipKey inner >>= fun _ => skipWithin bound (inner :: outer)) (c :: text) result) :
    Gives (afterOpening inner outer >>= goOn bound) (opener :: (a ++ c :: text)) result := by
  rw [afterOpening, bind_assoc]
  refine (gives_advance opener _).bind ?_
  rw [bind_assoc]
  refine Gives.token ha hc ?_
  simp only [hclose, if_false, bind_assoc, pure_bind]
  exact h

end Brackets

theorem passes_list {ts : List Tree} {vs : List (List Char)} {cs : List Char}
    (hvs : List.Forall₂ (fun t v => Starts v ∧ Passes t.size v) ts vs)
    (hcs : Elements true vs cs) : Passes (Tree.list ts).size ('[' :: (cs ++ [']'])) := by
  intro bound outer space rest result hspace _ h
  rw [Tree.size, Nat.add_comm 1, ← Nat.add_assoc, skipWithin_succ, skipStart, bind_assoc,
    List.cons_append, List.append_assoc]
  refine Gives.token hspace (by decide) ?_
  cases hvs with
  | nil =>
      cases hcs with
      | nil ha => exact gives_afterOpening_close ha h
  | @cons t v ts vs hv hvs =>
      cases hcs with
      | @cons _ _ _ cs _ hl hcs =>
          cases hl with
          | first ha =>
              have hends : Ends (cs ++ ']' :: rest) := hcs.ends (ends_cons _ (by decide))
              have hmore := gives_resume_items (hvs.imp fun _ _ hv => hv.2) hcs h
              have hitem := hv.2 _ (.list :: outer) [] _ _ space_nil hends hmore
              obtain ⟨c, w, rfl, hc, hclose⟩ := hv.1
              rw [Nat.add_assoc, Nat.add_comm (Tree.sizeItems ts)] at hitem
              simp only [List.append_assoc, List.cons_append, Tree.sizeItems]
              exact gives_afterOpening_part ha hc hclose hitem

theorem passes_object {fs : Fields} {es : List (String × List Char)} {cs : List Char}
    (hes : List.Forall₂ (fun f e => Passes f.2.size e.2) fs es) (hcs : Members true es cs) :
    Passes (Tree.object fs).size ('\x7b' :: (cs ++ ['\x7d'])) := by
  intro bound outer space rest result hspace _ h
  rw [Tree.size, Nat.add_comm 1, ← Nat.add_assoc, skipWithin_succ, skipStart, bind_assoc,
    List.cons_append, List.append_assoc]
  refine Gives.token hspace (by decide) ?_
  cases hes with
  | nil =>
      cases hcs with
      | nil ha => exact gives_afterOpening_close ha h
  | @cons f e fs es he hes =>
      obtain ⟨key, t⟩ := f
      cases hcs with
      | @cons _ _ _ _ _ _ cs _ _ hl hk ha hb hcs =>
          cases hl with
          | first hs =>
              have hends : Ends (cs ++ '\x7d' :: rest) := hcs.ends (ends_cons _ (by decide))
              have hmore := gives_resume_fields hes hcs h
              have hvalue := he _ (.object :: outer) _ _ _ hb hends hmore
              have hkey := gives_skipKey space_nil hk ha
              rw [Nat.add_assoc, Nat.add_comm (Tree.sizeFields fs)] at hvalue
              obtain ⟨tail, rfl⟩ := hk.eq_cons
              simp only [List.append_assoc, List.cons_append, Tree.sizeFields]
              exact gives_afterOpening_part hs (by decide) (by decide) ((hkey _).bind hvalue)

theorem passes_scalar {v : List Char}
    (h : ∀ {outer : List Enclosure} {next : Option (List Enclosure) → Reader Unit}
      {space rest : List Char} {result : Except Cause (Unit × List Char)}, Space space → Ends rest →
      Gives (afterValue outer >>= next) rest result →
        Gives (skipStart outer >>= next) (space ++ (v ++ rest)) result) : Passes 1 v := by
  intro bound outer space rest result hspace hrest hresume
  rw [skipWithin_succ]
  exact h hspace hrest hresume

mutual

theorem Spells.passes {t : Tree} {v : List Char} : Spells t v → Passes t.size v
  | .null => passes_scalar fun hspace _ h => gives_skipStart_word hspace (by decide) h
  | @Spells.bool b => by
      cases b with
      | true => exact passes_scalar fun hspace _ h => gives_skipStart_word hspace (by decide) h
      | false => exact passes_scalar fun hspace _ h => gives_skipStart_word hspace (by decide) h
  | .integer =>
      passes_scalar fun hspace => gives_skipStart_number hspace (numberText_integerText _)
  | .float hv => passes_scalar fun hspace => gives_skipStart_number hspace hv
  | .text hv => passes_scalar fun hspace _ h => gives_skipStart_literal hspace hv h
  | .list hvs hcs => passes_list hvs.passes hcs
  | .object hes hcs => passes_object hes.passes hcs

theorem SpellsItems.passes {ts : List Tree} {vs : List (List Char)} :
    SpellsItems ts vs → List.Forall₂ (fun t v => Starts v ∧ Passes t.size v) ts vs
  | .nil => .nil
  | .cons ht h => .cons ⟨ht.starts, ht.passes⟩ h.passes

theorem SpellsFields.passes {fs : List (String × Tree)} {es : List (String × List Char)} :
    SpellsFields fs es → List.Forall₂ (fun f e => Passes f.2.size e.2) fs es
  | .nil => .nil
  | .cons ht h => .cons ht.passes h.passes

end

/-- Any text of a tree is skipped within as many rounds as the tree has nodes. -/
theorem takes_skip {t : Tree} {v : List Char} (h : Spells t v) {bound : Nat}
    (hbound : t.size ≤ bound) : Takes (skip bound) v (.ok ()) := by
  intro space rest hspace hrest
  obtain ⟨more, rfl⟩ : ∃ more, bound = more + t.size := ⟨bound - t.size, by omega⟩
  exact h.passes more [] space rest _ hspace hrest (gives_pure () rest)

end QueryAdvisor.Json
