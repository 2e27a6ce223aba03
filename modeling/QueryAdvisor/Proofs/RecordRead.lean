import QueryAdvisor.Proofs.JsonSkip

/-!
# Reading records from their texts

A record is read field by field into a draft. What becomes of the draft along
the fields of an object is the relation `Shape.Fills`: a field with a slot is
read into the draft or refused, a field without one is skipped, and the first
refusal is the outcome. It says nothing about white space, commas and the
spelling of keys; these are dealt with here, once for all records.
-/

namespace QueryAdvisor.Json

/-! ## Single values -/

theorem takes_text {s : String} {v : List Char} (h : Literal s v) : Takes text v (.ok s) := by
  intro space rest hspace _
  have htext := gives_literalText h rest
  obtain ⟨tail, rfl⟩ := h.eq_cons
  exact Gives.token hspace (by decide) htext

section Optional

variable {α : Type} {reader : Reader α} {v : List Char}

theorem takes_optional_null : Takes (optional reader) nullText (.ok none) := by
  intro space rest hspace _
  refine Gives.token hspace (by decide) ((gives_advance 'n' _).bind ?_)
  exact (gives_restOfWord ['u', 'l', 'l'] rest).bind (gives_pure none rest)

/-- A text that does not start like null is left to the reader. -/
theorem takes_optional {result : Except Cause α} {c : Char} {cs : List Char} (hv : v = c :: cs)
    (hspace : isSpace c = false) (hnull : c ≠ 'n') (h : Takes reader v result) :
    Takes (optional reader) v (result.map some) := by
  subst hv
  intro space rest hspace' hrest
  have hreader := h [] rest space_nil hrest
  refine Gives.token hspace' hspace ?_
  split
  next hc => exact absurd (Option.some.inj hc) hnull
  next =>
    rw [map_eq_pure_bind]
    cases result with
    | ok a => exact hreader.bind (gives_pure (some a) rest)
    | error cause => exact hreader.bind_error

end Optional

section Variants

variable {α : Type} {choices : List (String × α)} {name : String} {choice : α}

theorem gives_named (h : choices.find? (·.1 = name) = some (name, choice)) (rest : List Char) :
    Gives (named choices name) rest (.ok (choice, rest)) := by
  rw [named, h]
  exact gives_pure choice rest

theorem takes_variant (h : choices.find? (·.1 = name) = some (name, choice)) {v : List Char}
    (hv : Literal name v) : Takes (variant choices) v (.ok choice) := by
  intro space rest hspace _
  have htext := gives_literalText hv rest
  obtain ⟨tail, rfl⟩ := hv.eq_cons
  exact Gives.token hspace (by decide) (htext.bind (gives_named h rest))

/-- A variant may be written as the only key of an object that holds null. -/
theorem takes_variant_object (h : choices.find? (·.1 = name) = some (name, choice))
    {k a b c d : List Char} (hk : Literal name k) (ha : Space a) (hb : Space b) (hc : Space c)
    (hd : Space d) :
    Takes (variant choices)
      ('\x7b' :: (a ++ (k ++ (b ++ ':' :: (c ++ (nullText ++ (d ++ ['\x7d']))))))) (.ok choice) := by
  intro space rest hspace _
  have hkey := gives_literalText hk (b ++ ':' :: (c ++ (nullText ++ (d ++ '\x7d' :: rest))))
  have honly : Gives onlyKey (a ++ (k ++ (b ++ ':' :: (c ++ (nullText ++ (d ++ '\x7d' :: rest))))))
      (.ok (name, b ++ ':' :: (c ++ (nullText ++ (d ++ '\x7d' :: rest))))) := by
    obtain ⟨tail, rfl⟩ := hk.eq_cons
    exact Gives.token ha (by decide) hkey
  have hunit : Gives unit (c ++ (nullText ++ (d ++ '\x7d' :: rest)))
      (.ok ((), d ++ '\x7d' :: rest)) := by
    refine Gives.token hc (by decide) ((gives_advance 'n' _).bind ?_)
    exact gives_restOfWord ['u', 'l', 'l'] _
  simp only [List.cons_append, List.append_assoc, List.nil_append]
  refine Gives.token hspace (by decide) ((gives_advance '\x7b' _).bind ?_)
  refine honly.bind ((gives_named h _).bind ((gives_colon hb _).bind (hunit.bind ?_)))
  exact Gives.token hd (by decide) ((gives_advance '\x7d' rest).bind (gives_pure choice rest))

end Variants

theorem takes_listOf {α : Type} {item : Reader α} {bound : Nat} {vs : List (List Char)}
    {results : List (Except Cause α)} {cs : List Char}
    (hvs : List.Forall₂ (fun v r => Starts v ∧ Takes item v r) vs results)
    (hcs : Elements true vs cs) (hbound : vs.length < bound) :
    Takes (listOf bound item) ('[' :: (cs ++ [']'])) (inOrder results) := by
  intro space rest hspace _
  have hstart : Elements ([] : List α).isEmpty vs cs := hcs
  have hitems := gives_itemsOf hvs hstart hbound rest
  rw [List.cons_append, List.append_assoc]
  exact Gives.token hspace (by decide) ((gives_advance '[' _).bind hitems)

/-! ## Records -/

namespace Shape

variable {δ α : Type} {shape : Shape δ α} {total : Nat}

/-- What becomes of a draft along the fields of an object, given as keys and the
texts of their values. -/
inductive Fills (shape : Shape δ α) (total : Nat) :
    δ → List (String × List Char) → Except Cause δ → Prop where
  | done {d : δ} : Fills shape total d [] (.ok d)
  | read {d d' : δ} {key : String} {v : List Char} {es : List (String × List Char)}
      {result : Except Cause δ} {slot : Slot δ}
      (hslot : shape.slots.find? (·.key = key) = some slot) (hopen : slot.filled d = false)
      (hread : Takes (slot.read d) v (.ok d')) (h : Fills shape total d' es result) :
      Fills shape total d ((key, v) :: es) result
  | refused {d : δ} {key : String} {v : List Char} {es : List (String × List Char)}
      {cause : Cause} {slot : Slot δ}
      (hslot : shape.slots.find? (·.key = key) = some slot) (hopen : slot.filled d = false)
      (hread : Takes (slot.read d) v (.error cause)) :
      Fills shape total d ((key, v) :: es) (.error cause)
  | skipped {d : δ} {key : String} {v : List Char} {es : List (String × List Char)}
      {result : Except Cause δ} (hslot : shape.slots.find? (·.key = key) = none)
      (hskip : Takes (skip total) v (.ok ())) (h : Fills shape total d es result) :
      Fills shape total d ((key, v) :: es) result

section Fields

variable {first : Bool} {bound : Nat} {draft : δ} {l k a text : List Char} {key : String}
  {result : Except Cause (δ × List Char)}

theorem gives_readFields_slot {slot : Slot δ} (hl : Lead first l) (hk : Literal key k)
    (ha : Space a) (hslot : shape.slots.find? (·.key = key) = some slot)
    (hopen : slot.filled draft = false)
    (h : Gives (slot.read draft >>= shape.readFields total bound false) text result) :
    Gives (shape.readFields total (bound + 1) first draft) (l ++ (k ++ (a ++ ':' :: text)))
      result := by
  have hkey := gives_literalText hk (a ++ ':' :: text)
  obtain ⟨tail, rfl⟩ := hk.eq_cons
  refine (gives_moreFields hl _).bind (hkey.bind ?_)
  simp only [hslot, hopen, Bool.false_eq_true, if_false]
  exact (gives_colon ha text).bind h

theorem gives_readFields_unknown (hl : Lead first l) (hk : Literal key k) (ha : Space a)
    (hslot : shape.slots.find? (·.key = key) = none)
    (h : Gives (skip total >>= fun _ => shape.readFields total bound false draft) text result) :
    Gives (shape.readFields total (bound + 1) first draft) (l ++ (k ++ (a ++ ':' :: text)))
      result := by
  have hkey := gives_literalText hk (a ++ ':' :: text)
  obtain ⟨tail, rfl⟩ := hk.eq_cons
  refine (gives_moreFields hl _).bind (hkey.bind ?_)
  simp only [hslot]
  exact (gives_colon ha text).bind h

end Fields

/-- The loop over the fields does to the draft what `Fills` says, and stops in
front of the closing brace. -/
theorem gives_readFields {first : Bool} {bound : Nat} {draft : δ}
    {es : List (String × List Char)} {cs : List Char} {result : Except Cause δ}
    (h : Fills shape total draft es result) (hcs : Members first es cs)
    (hbound : es.length < bound) (rest : List Char) :
    Gives (shape.readFields total bound first draft) (cs ++ '\x7d' :: rest)
      (result.map (·, '\x7d' :: rest)) := by
  have hclose : Ends ('\x7d' :: rest) := ends_cons _ (by decide)
  induction h generalizing cs bound first with
  | @done d =>
      obtain ⟨bound, rfl⟩ : ∃ b, bound = b + 1 := ⟨bound - 1, by omega⟩
      cases hcs with
      | nil ha => exact (gives_moreFields_close ha rest).bind (gives_pure d _)
  | read hslot hopen hread _ ih =>
      obtain ⟨bound, rfl⟩ : ∃ b, bound = b + 1 := ⟨bound - 1, by omega⟩
      cases hcs with
      | cons hl hk ha hb hcs =>
          have hvalue := hread _ _ hb (hcs.ends hclose)
          rw [List.length_cons] at hbound
          simp only [List.append_assoc, List.cons_append]
          refine gives_readFields_slot hl hk ha hslot hopen ?_
          exact hvalue.bind (ih hcs (by omega))
  | refused hslot hopen hread =>
      obtain ⟨bound, rfl⟩ : ∃ b, bound = b + 1 := ⟨bound - 1, by omega⟩
      cases hcs with
      | cons hl hk ha hb hcs =>
          have hvalue := hread _ _ hb (hcs.ends hclose)
          simp only [List.append_assoc, List.cons_append]
          exact gives_readFields_slot hl hk ha hslot hopen hvalue.bind_error
  | skipped hslot hskip _ ih =>
      obtain ⟨bound, rfl⟩ : ∃ b, bound = b + 1 := ⟨bound - 1, by omega⟩
      cases hcs with
      | cons hl hk ha hb hcs =>
          have hvalue := hskip _ _ hb (hcs.ends hclose)
          rw [List.length_cons] at hbound
          simp only [List.append_assoc, List.cons_append]
          refine gives_readFields_unknown hl hk ha hslot ?_
          exact hvalue.bind (ih hcs (by omega))

/-- A record is read from an object whose fields complete its draft. -/
theorem takes_record {bound : Nat} {es : List (String × List Char)} {cs : List Char} {d : δ}
    {a : α} (h : Fills shape bound shape.start es (.ok d)) (hbuild : shape.build d = .ok a)
    (hcs : Members true es cs) (hbound : es.length < bound) :
    Takes (shape.reader bound) ('\x7b' :: (cs ++ ['\x7d'])) (.ok a) := by
  intro space rest hspace _
  have hfields := gives_readFields h hcs hbound rest
  rw [List.cons_append, List.append_assoc]
  refine Gives.token hspace (by decide) ((gives_advance '\x7b' _).bind (hfields.bind ?_))
  rw [complete, hbuild]
  exact (gives_pure a _).bind ((gives_advance '\x7d' rest).bind (gives_pure a rest))

theorem takes_record_error {bound : Nat} {es : List (String × List Char)} {cs : List Char}
    {cause : Cause} (h : Fills shape bound shape.start es (.error cause))
    (hcs : Members true es cs) (hbound : es.length < bound) :
    Takes (shape.reader bound) ('\x7b' :: (cs ++ ['\x7d'])) (.error cause) := by
  intro space rest hspace _
  have hfields := gives_readFields h hcs hbound rest
  rw [List.cons_append, List.append_assoc]
  exact Gives.token hspace (by decide) ((gives_advance '\x7b' _).bind hfields.bind_error)

/-- What becomes of a draft along the values of a list, one slot after the other.
The list may stop in front of slots that may be left out. -/
inductive Lists : List (Slot δ) → δ → List (List Char) → δ → Prop where
  | done {slots : List (Slot δ)} {d : δ} (h : ∀ slot ∈ slots, slot.mayBeLeftOut = true) :
      Lists slots d [] d
  | read {slot : Slot δ} {slots : List (Slot δ)} {d d' last : δ} {v : List Char}
      {vs : List (List Char)} (hv : Starts v) (hread : Takes (slot.read d) v (.ok d'))
      (h : Lists slots d' vs last) : Lists (slot :: slots) d (v :: vs) last

theorem gives_readItems_leftOut {slots : List (Slot δ)}
    (h : ∀ slot ∈ slots, slot.mayBeLeftOut = true) (index : Nat) (d : δ) {a : List Char}
    (ha : Space a) (rest : List Char) :
    ∃ b, Space b ∧
      Gives (shape.readItems index slots d) (a ++ ']' :: rest) (.ok (d, b ++ ']' :: rest)) := by
  induction slots generalizing index a with
  | nil => exact ⟨a, ha, gives_pure d _⟩
  | cons slot slots ih =>
      obtain ⟨b, hb, hslots⟩ :=
        ih (fun s hs => h s (List.mem_cons_of_mem _ hs)) (index + 1) space_nil
      refine ⟨b, hb, (gives_moreItems_close ha rest).bind ?_⟩
      simp only [Bool.false_eq_true, if_false, h slot List.mem_cons_self, if_true]
      exact hslots

/-- White space in front of the closing bracket is passed over or not, depending
on whether another item was looked for. -/
theorem gives_readItems {slots : List (Slot δ)} {index : Nat} {d last : δ}
    {vs : List (List Char)} {cs : List Char} (h : Lists slots d vs last)
    (hcs : Elements (index == 0) vs cs) (rest : List Char) :
    ∃ a, Space a ∧
      Gives (shape.readItems index slots d) (cs ++ ']' :: rest) (.ok (last, a ++ ']' :: rest)) := by
  have hclose : Ends (']' :: rest) := ends_cons _ (by decide)
  induction h generalizing index cs with
  | @done slots d hleft =>
      cases hcs with
      | nil ha => exact gives_readItems_leftOut hleft index d ha rest
  | read hv hread _ ih =>
      cases hcs with
      | cons hl hcs =>
          have hvalue := hread [] _ space_nil (hcs.ends hclose)
          have hnext : Elements (index + 1 == 0) _ _ := hcs
          obtain ⟨a, ha, hrest⟩ := ih hnext
          refine ⟨a, ha, ?_⟩
          simp only [List.append_assoc]
          exact (gives_moreItems hl hv _).bind (hvalue.bind hrest)

theorem gives_closeItems {a : List Char} (ha : Space a) (rest : List Char) :
    Gives closeItems (a ++ ']' :: rest) (.ok ((), rest)) :=
  Gives.token ha (by decide) (gives_advance ']' rest)

/-- A record is read from a list of its fields in order. -/
theorem takes_record_list {vs : List (List Char)} {cs : List Char} {d : δ} {a : α}
    (h : Lists shape.slots shape.start vs d) (hbuild : shape.build d = .ok a)
    (hcs : Elements true vs cs) (bound : Nat) :
    Takes (shape.reader bound) ('[' :: (cs ++ [']'])) (.ok a) := by
  intro space rest hspace _
  have hstart : Elements (0 == 0) vs cs := hcs
  obtain ⟨b, hb, hitems⟩ := gives_readItems h hstart rest
  rw [List.cons_append, List.append_assoc]
  refine Gives.token hspace (by decide) ((gives_advance '[' _).bind (hitems.bind ?_))
  rw [complete, hbuild]
  exact (gives_pure a _).bind ((gives_closeItems hb rest).bind (gives_pure a rest))

end Shape

/-! ## Whole texts -/

theorem Space.ends {a : List Char} (h : Space a) : Ends a := by
  have := ends_nil.behind_space h
  rwa [List.append_nil] at this

theorem eq_ok_of_mapError {ε ε' α : Type} {f : ε → ε'} {x : Except ε α} {a : α}
    (h : x.mapError f = .ok a) : x = .ok a := by
  cases x with
  | ok b =>
      cases h
      rfl
  | error e => cases h

theorem eq_error_of_mapError {ε ε' α : Type} {f : ε → ε'} {x : Except ε α} {e' : ε'}
    (h : x.mapError f = .error e') : ∃ e, x = .error e ∧ f e = e' := by
  cases x with
  | ok b => cases h
  | error e => exact ⟨e, rfl, Except.error.inj h⟩

/-- A text that is one value between white space is read as the value is. -/
theorem readAll_of_takes {α : Type} {reader : Reader α} {v before after : List Char}
    {result : Except Cause α} (h : Takes reader v result) (hbefore : Space before)
    (hafter : Space after) {text : String} (htext : text.toList = before ++ (v ++ after)) :
    (readAll reader text).mapError Fault.cause = result := by
  have hreader := h before after hbefore hafter.ends 0
  have hfinish : ∀ offset, ∃ cursor, finish ⟨after, offset⟩ = .ok ((), cursor) := by
    intro offset
    have hdrop : after.dropWhile isSpace = [] := List.dropWhile_eq_nil_iff.mpr hafter
    refine ⟨(Cursor.mk after offset).skipSpace, ?_⟩
    simp only [finish, Bind.bind, StateT.bind, Reader.peekToken?, Except.bind, Cursor.skipSpace,
      hdrop, List.head?_nil]
    rfl
  rw [readAll, Cursor.start, htext]
  cases hrun : reader ⟨before ++ (v ++ after), 0⟩ with
  | error fault =>
      rw [hrun] at hreader
      cases result with
      | error cause =>
          cases hreader
          rfl
      | ok a => cases hreader
  | ok p =>
      obtain ⟨a, cursor⟩ := p
      rw [hrun] at hreader
      cases result with
      | error cause => cases hreader
      | ok a' =>
          cases hreader
          obtain ⟨cursor', hdone⟩ := hfinish cursor.offset
          simp only [Bind.bind, Except.bind, hdone]
          rfl

theorem Spells.size_le_roundBound {t : Tree} {text : String} (h : Spells t text.toList) :
    t.size ≤ roundBound text :=
  Nat.le_succ_of_le h.size_le

/-- A tree that a text tells exactly is read from every spelling of it, unless it has
too many levels. -/
theorem ofJson_of_spells {t : Tree} {text : String} (h : Spells t text.toList) (hexact : t.Exact) :
    (Tree.ofJson text).mapError Fault.cause = t.within maxDepth := by
  refine readAll_of_takes (takes_value h hexact h.size_le_roundBound maxDepth) space_nil
    space_nil ?_
  rw [List.nil_append, List.append_nil]

end QueryAdvisor.Json
