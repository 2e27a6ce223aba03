import Mathlib.Data.List.TakeWhile
import QueryAdvisor.Json.Record
import QueryAdvisor.Proofs.JsonGrammar

/-!
# What a reader comes to

Readers are put together from smaller ones, and so is what is known about
them. `Gives` says what a reader comes to on a text, wherever in a longer text
it stands: a value and what is left, or the cause of a fault. Where the fault
is reported plays no part. A reader goes on after another one by
`Gives.bind`, and stops with it by `Gives.bind_error`; the other rules are
about the smallest readers.

`Takes` is the form in which the readers of whole values are described. Such a
reader passes over white space in front, and what follows the value must not
be able to continue a number.
-/

namespace QueryAdvisor.Json

/-- The outcome of a reader without the places. -/
def outcome {α : Type} : Except Fault (α × Cursor) → Except Cause (α × List Char)
  | .ok (a, cursor) => .ok (a, cursor.rest)
  | .error fault => .error fault.cause

/-- What a reader comes to on a text, at any offset. -/
def Gives {α : Type} (reader : Reader α) (text : List Char)
    (result : Except Cause (α × List Char)) : Prop :=
  ∀ offset, outcome (reader ⟨text, offset⟩) = result

/-- What can stand behind a value: nothing that continues a number. -/
def Ends (rest : List Char) : Prop :=
  ∀ c ∈ rest.head?, c.isDigit = false ∧ c ≠ '.' ∧ c ≠ 'e' ∧ c ≠ 'E'

/-- What a reader of values makes of the text of a value. -/
def Takes {α : Type} (reader : Reader α) (v : List Char) (result : Except Cause α) : Prop :=
  ∀ space rest, Space space → Ends rest →
    Gives reader (space ++ (v ++ rest)) (result.map (·, rest))

section Composition

variable {α β : Type} {reader : Reader α} {next : α → Reader β} {text rest : List Char} {a : α}
  {cause : Cause} {result : Except Cause (β × List Char)}

theorem Gives.bind (h : Gives reader text (.ok (a, rest))) (hnext : Gives (next a) rest result) :
    Gives (reader >>= next) text result := by
  intro offset
  have hreader := h offset
  cases hrun : reader ⟨text, offset⟩ with
  | error fault =>
      rw [hrun] at hreader
      cases hreader
  | ok p =>
      obtain ⟨b, cursor⟩ := p
      rw [hrun] at hreader
      cases hreader
      have hcursor := hnext cursor.offset
      simpa only [Bind.bind, StateT.bind, hrun, Except.bind] using hcursor

theorem Gives.bind_error (h : Gives reader text (.error cause)) :
    Gives (reader >>= next) text (.error cause) := by
  intro offset
  have hreader := h offset
  cases hrun : reader ⟨text, offset⟩ with
  | ok p =>
      rw [hrun] at hreader
      cases hreader
  | error fault =>
      rw [hrun] at hreader
      cases hreader
      simp only [Bind.bind, StateT.bind, hrun, Except.bind, outcome]

theorem gives_pure (a : α) (text : List Char) :
    Gives (pure a : Reader α) text (.ok (a, text)) := by
  intro offset
  rfl

theorem gives_failNext (cause : Cause) (text : List Char) :
    Gives (Reader.failNext cause : Reader α) text (.error cause) := by
  intro offset
  rfl

/-- A value that is read goes through a function. -/
theorem Takes.bind_pure {v : List Char} {taken : Except Cause α} (h : Takes reader v taken)
    (f : α → β) : Takes (reader >>= fun a => pure (f a)) v (taken.map f) := by
  intro space rest hspace hrest
  have hreader := h space rest hspace hrest
  cases taken with
  | ok a => exact hreader.bind (gives_pure (f a) rest)
  | error cause => exact hreader.bind_error

end Composition

/-! ## White space and ends -/

theorem isSpace_iff (c : Char) :
    isSpace c = true ↔ c = ' ' ∨ c = '\t' ∨ c = '\n' ∨ c = '\r' := by
  simp only [isSpace, Bool.or_eq_true, beq_iff_eq, or_assoc]

theorem ends_nil : Ends [] := nofun

theorem ends_cons {c : Char} (rest : List Char)
    (h : c.isDigit = false ∧ c ≠ '.' ∧ c ≠ 'e' ∧ c ≠ 'E') : Ends (c :: rest) := by
  intro d hd
  rw [List.head?_cons, Option.mem_some] at hd
  subst hd
  exact h

theorem Ends.behind_space {a rest : List Char} (ha : Space a) (h : Ends rest) :
    Ends (a ++ rest) := by
  cases a with
  | nil => exact h
  | cons c cs =>
      refine ends_cons _ ?_
      rcases (isSpace_iff c).mp (ha c List.mem_cons_self) with rfl | rfl | rfl | rfl <;> decide

/-- A value ends in front of the next part, and in front of the closing bracket. -/
theorem Elements.ends {vs : List (List Char)} {cs rest : List Char} (h : Elements false vs cs)
    (hrest : Ends rest) : Ends (cs ++ rest) := by
  cases h with
  | nil ha => exact hrest.behind_space ha
  | cons hl _ =>
      cases hl with
      | comma ha _ =>
          rw [List.append_assoc, List.append_assoc]
          exact Ends.behind_space ha (ends_cons _ (by decide))

theorem Members.ends {es : List (String × List Char)} {cs rest : List Char}
    (h : Members false es cs) (hrest : Ends rest) : Ends (cs ++ rest) := by
  cases h with
  | nil ha => exact hrest.behind_space ha
  | cons hl _ _ _ _ =>
      cases hl with
      | comma ha _ =>
          rw [List.append_assoc, List.append_assoc]
          exact Ends.behind_space ha (ends_cons _ (by decide))

theorem skipSpace_of_space {a : List Char} (ha : Space a) (text : List Char) (offset : Nat) :
    (Cursor.mk (a ++ text) offset).skipSpace = (Cursor.mk text (offset + a.length)).skipSpace := by
  induction a generalizing offset with
  | nil => rfl
  | cons c cs ih =>
      have hc := ha c List.mem_cons_self
      have hcs := ih (fun d hd => ha d (List.mem_cons_of_mem c hd)) (offset + 1)
      simp only [Cursor.skipSpace, Cursor.mk.injEq] at hcs ⊢
      simp only [List.cons_append, List.dropWhile_cons, List.takeWhile_cons, hc, if_true,
        List.length_cons]
      exact ⟨hcs.1, by omega⟩

/-- A reader that first looks for a token does not see the white space in
front. -/
theorem Gives.behind_space {β : Type} {next : Option Char → Reader β} {a text : List Char}
    {result : Except Cause (β × List Char)} (ha : Space a)
    (h : Gives (Reader.peekToken? >>= next) text result) :
    Gives (Reader.peekToken? >>= next) (a ++ text) result := by
  intro offset
  have hbehind := h (offset + a.length)
  simp only [Bind.bind, StateT.bind, Reader.peekToken?, Except.bind, skipSpace_of_space ha]
    at hbehind ⊢
  exact hbehind

/-! ## The smallest readers -/

theorem gives_advance (c : Char) (text : List Char) :
    Gives Reader.advance (c :: text) (.ok ((), text)) := by
  intro offset
  rfl

theorem gives_peek? (text : List Char) :
    Gives Reader.peek? text (.ok (text.head?, text)) := by
  intro offset
  rfl

theorem gives_peekToken? {c : Char} (hc : isSpace c = false) (text : List Char) :
    Gives Reader.peekToken? (c :: text) (.ok (some c, c :: text)) := by
  intro offset
  simp only [Reader.peekToken?, Cursor.skipSpace, List.dropWhile_cons, hc, Bool.false_eq_true,
    if_false, outcome, List.head?_cons]

/-- A reader that looks for a token, on white space and then a token. -/
theorem Gives.token {β : Type} {next : Option Char → Reader β} {a : List Char} {c : Char}
    {text : List Char} {result : Except Cause (β × List Char)} (ha : Space a)
    (hc : isSpace c = false) (h : Gives (next (some c)) (c :: text) result) :
    Gives (Reader.peekToken? >>= next) (a ++ c :: text) result :=
  ((gives_peekToken? hc text).bind h).behind_space ha

theorem gives_restOfWord (word text : List Char) :
    Gives (Reader.restOfWord word) (word ++ text) (.ok ((), text)) := by
  induction word with
  | nil => exact gives_pure () text
  | cons c rest ih =>
      rw [Reader.restOfWord]
      refine (gives_peek? _).bind ?_
      simp only [List.cons_append, List.head?_cons, if_true]
      exact (gives_advance c _).bind ih

theorem gives_digits {ds rest : List Char} (hds : ∀ c ∈ ds, c.isDigit = true)
    (hrest : ∀ c ∈ rest.head?, c.isDigit = false) :
    Gives Reader.digits (ds ++ rest) (.ok (ds, rest)) := by
  have htake : (ds ++ rest).takeWhile Char.isDigit = ds := by
    rw [List.takeWhile_append_of_pos hds]
    cases rest with
    | nil => simp
    | cons c cs => simp [hrest c (by simp)]
  have hdrop : (ds ++ rest).dropWhile Char.isDigit = rest := by
    rw [List.dropWhile_append_of_pos hds]
    cases rest with
    | nil => rfl
    | cons c cs => simp [hrest c (by simp)]
  intro offset
  simp only [Reader.digits, htake, hdrop, outcome]

/-! ## Tokens -/

theorem shortEscape?_of_mem {letter c : Char} (h : (letter, c) ∈ shortEscapes) :
    shortEscape? letter = some c ∧ letter ≠ 'u' := by
  simp only [shortEscapes, List.mem_cons, Prod.mk.injEq, List.not_mem_nil, or_false] at h
  rcases h with ⟨rfl, rfl⟩ | ⟨rfl, rfl⟩ | ⟨rfl, rfl⟩ | ⟨rfl, rfl⟩ | ⟨rfl, rfl⟩ | ⟨rfl, rfl⟩
    | ⟨rfl, rfl⟩ | ⟨rfl, rfl⟩ <;> decide

/-- No character is half of a surrogate pair. -/
theorem not_surrogate (c : Char) :
    isLeadingSurrogate c.toNat = false ∧ isTrailingSurrogate c.toNat = false := by
  have hvalid : c.toNat < 0xd800 ∨ 0xdfff < c.toNat ∧ c.toNat < 0x110000 := c.valid
  simp only [isLeadingSurrogate, isTrailingSurrogate, Bool.and_eq_false_iff, decide_eq_false_iff_not]
  omega

theorem textBody_of_spelled {s body : List Char} (h : Spelled s body) (collected rest : List Char)
    (offset : Nat) :
    ∃ offset', textBody collected (body ++ '"' :: rest) offset
      = .ok (collected.reverse ++ s, ⟨rest, offset'⟩) := by
  induction h generalizing collected offset with
  | nil =>
      refine ⟨offset + 1, ?_⟩
      rw [List.nil_append, textBody, List.append_nil]
  | @plain c s cs hquote hslash hcontrol _ ih =>
      obtain ⟨offset', hrest⟩ := ih (c :: collected) (offset + c.utf8Size)
      refine ⟨offset', ?_⟩
      simp (disch := simp [hquote, hslash]) only [List.cons_append, textBody]
      rw [if_neg (Nat.not_lt.mpr hcontrol), hrest, List.reverse_cons, List.append_assoc]
      rfl
  | @short c letter s cs hletter _ ih =>
      obtain ⟨hescape, hu⟩ := shortEscape?_of_mem hletter
      obtain ⟨offset', hrest⟩ := ih (c :: collected) (offset + 2)
      refine ⟨offset', ?_⟩
      simp (disch := simp [hu]) only [List.cons_append, textBody, hescape]
      simp only [hrest, List.reverse_cons, List.append_assoc, List.cons_append, List.nil_append]
  | @number c x₁ x₂ x₃ x₄ s cs hc _ ih =>
      obtain ⟨hleading, htrailing⟩ := not_surrogate c
      obtain ⟨offset', hrest⟩ := ih (c :: collected) (offset + 6)
      refine ⟨offset', ?_⟩
      simp only [List.cons_append, textBody, hc, hleading, htrailing, Bool.false_eq_true, if_false,
        Char.ofNat_toNat, hrest, List.reverse_cons, List.append_assoc, List.nil_append]
  | @pair c x₁ x₂ x₃ x₄ y₁ y₂ y₃ y₄ n m s cs hn hm hleading htrailing hc _ ih =>
      have hnot : isTrailingSurrogate n = false := by
        simp only [isLeadingSurrogate, Bool.and_eq_true, decide_eq_true_eq] at hleading
        simp only [isTrailingSurrogate, Bool.and_eq_false_iff, decide_eq_false_iff_not]
        omega
      obtain ⟨offset', hrest⟩ := ih (c :: collected) (offset + 12)
      refine ⟨offset', ?_⟩
      simp only [List.cons_append, textBody, hn, hm, hnot, hleading, htrailing, Bool.false_eq_true,
        if_false, if_true, ← hc, Char.ofNat_toNat, hrest, List.reverse_cons, List.append_assoc,
        List.nil_append]

theorem gives_literalText {s : String} {k : List Char} (h : Literal s k) (rest : List Char) :
    Gives literalText (k ++ rest) (.ok (s, rest)) := by
  obtain ⟨body, hbody, rfl⟩ := h
  intro offset
  obtain ⟨offset', hread⟩ := textBody_of_spelled hbody [] rest (offset + 1)
  simp only [literalText, List.cons_append, List.drop_succ_cons, List.drop_zero, List.append_assoc,
    List.nil_append, hread, List.reverse_nil, String.ofList_toList, outcome]

theorem gives_colon {a : List Char} (ha : Space a) (text : List Char) :
    Gives colon (a ++ ':' :: text) (.ok ((), text)) :=
  Gives.token ha (by decide) (gives_advance ':' text)

/-- A key is the next token, so a key is coming. -/
theorem gives_moreFields {first : Bool} {l : List Char} (hl : Lead first l) (text : List Char) :
    Gives (moreFields first) (l ++ '"' :: text) (.ok (true, '"' :: text)) := by
  cases hl with
  | first ha => exact Gives.token ha (by decide) (gives_pure true _)
  | comma ha hb =>
      rw [List.append_assoc]
      refine Gives.token ha (by decide) ?_
      exact (gives_advance ',' _).bind (Gives.token hb (by decide) (gives_pure true _))

theorem gives_moreFields_close {first : Bool} {a : List Char} (ha : Space a) (text : List Char) :
    Gives (moreFields first) (a ++ '\x7d' :: text) (.ok (false, '\x7d' :: text)) :=
  Gives.token ha (by decide) (gives_pure false _)

theorem gives_moreItems_close {first : Bool} {a : List Char} (ha : Space a) (text : List Char) :
    Gives (moreItems first) (a ++ ']' :: text) (.ok (false, ']' :: text)) :=
  Gives.token ha (by decide) (gives_pure false _)

end QueryAdvisor.Json
