import QueryAdvisor.Plan.Statement
import QueryAdvisor.Proofs.Trim

/-!
# What stays of the separators behind a query

A query is put into a statement without the semicolons and the white space at
its end. That takes three cuts: white space, semicolons, white space. They are
made once, so they remove one group of semicolons and the white space on either
side of it, and no more; what stands in front of that white space may be a
semicolon again, and then it stays.

`separatorGroups` counts the groups of semicolons behind a query. One embedding
lowers that number by one, and everything else follows: further separators
change nothing exactly as long as they open no second group, and the embedded
text is free of separators at its end, and embedded again as it is, exactly when
there was at most one group to begin with.

All inductions go from the end of the text, one character at a time.
-/

namespace QueryAdvisor

open Text

/-- Whether a character only separates statements. -/
def isSeparator (c : Char) : Bool :=
  isBlank c || c == ';'

/-- The number of groups of semicolons in front of anything else, where a group
is counted at its last semicolon and white space is passed over. -/
def groupsInFront : List Char → Nat
  | [] => 0
  | c :: rest =>
      if isBlank c then groupsInFront rest
      else if c = ';' then
        if rest.head? = some ';' then groupsInFront rest else groupsInFront rest + 1
      else 0

/-- The number of groups of semicolons among the separators at the end of a text. -/
def separatorGroups (s : List Char) : Nat :=
  groupsInFront s.reverse

/-- The three cuts at the end of a text. -/
def cutBack (s : List Char) : List Char :=
  trimBack ((trimBack s).rdropWhile (· == ';'))

theorem embeddedQuery_eq_cutBack (query : List Char) :
    embeddedQuery query = cutBack (trimFront query) := rfl

theorem blank_or_semicolon_or_other (c : Char) :
    isBlank c = true ∨ c = ';' ∨ (isBlank c = false ∧ c ≠ ';') := by
  cases hblank : isBlank c with
  | true => exact .inl rfl
  | false =>
      by_cases hsemicolon : c = ';'
      · exact .inr (.inl hsemicolon)
      · exact .inr (.inr ⟨rfl, hsemicolon⟩)

/-! ## One more character -/

section Concat

variable {c : Char} (s : List Char)

theorem separatorGroups_concat_blank (h : isBlank c = true) :
    separatorGroups (s ++ [c]) = separatorGroups s := by
  rw [separatorGroups, List.reverse_concat, groupsInFront, if_pos h, separatorGroups]

theorem separatorGroups_concat_semicolon :
    separatorGroups (s ++ [';'])
      = if s.getLast? = some ';' then separatorGroups s else separatorGroups s + 1 := by
  rw [separatorGroups, List.reverse_concat, groupsInFront, if_neg (by decide), if_pos rfl,
    List.head?_reverse, separatorGroups]

theorem separatorGroups_concat_other (hblank : isBlank c = false) (hsemicolon : c ≠ ';') :
    separatorGroups (s ++ [c]) = 0 := by
  rw [separatorGroups, List.reverse_concat, groupsInFront,
    if_neg (by rw [hblank]; exact Bool.false_ne_true), if_neg hsemicolon]

theorem cutBack_concat_blank (h : isBlank c = true) : cutBack (s ++ [c]) = cutBack s := by
  rw [cutBack, trimBack_concat_of_isBlank h s, cutBack]

/-- A semicolon at the end is either part of a group or a group of its own, which
is all that is cut. -/
theorem cutBack_concat_semicolon :
    cutBack (s ++ [';']) = if s.getLast? = some ';' then cutBack s else trimBack s := by
  rw [cutBack, trimBack_concat_of_not_isBlank (by decide) s, List.rdropWhile_concat_pos _ _ _ rfl]
  split
  · next hlast =>
      obtain ⟨front, rfl⟩ := List.getLast?_eq_some_iff.mp hlast
      rw [cutBack, trimBack_concat_of_not_isBlank (by decide) front]
  · next hlast =>
      rw [List.rdropWhile_eq_self_iff.mpr]
      intro hne hsemicolon
      rw [List.getLast?_eq_some_getLast hne, beq_iff_eq.mp hsemicolon] at hlast
      exact hlast rfl

theorem cutBack_concat_other (hblank : isBlank c = false) (hsemicolon : c ≠ ';') :
    cutBack (s ++ [c]) = s ++ [c] := by
  rw [cutBack, trimBack_concat_of_not_isBlank hblank s, List.rdropWhile_concat_neg _ _ _ (by simpa),
    trimBack_concat_of_not_isBlank hblank s]

end Concat

/-! ## One group for one embedding -/

theorem separatorGroups_trimBack (s : List Char) :
    separatorGroups (trimBack s) = separatorGroups s := by
  induction s using List.reverseRecOn with
  | nil => rfl
  | append_singleton s c ih =>
      cases hblank : isBlank c with
      | true => rw [trimBack_concat_of_isBlank hblank s, separatorGroups_concat_blank s hblank, ih]
      | false => rw [trimBack_concat_of_not_isBlank hblank s]

theorem separatorGroups_cutBack (s : List Char) :
    separatorGroups (cutBack s) = separatorGroups s - 1 := by
  induction s using List.reverseRecOn with
  | nil => rfl
  | append_singleton s c ih =>
      obtain hblank | rfl | ⟨hblank, hother⟩ := blank_or_semicolon_or_other c
      · rw [cutBack_concat_blank s hblank, separatorGroups_concat_blank s hblank, ih]
      · rw [cutBack_concat_semicolon, separatorGroups_concat_semicolon]
        split
        · exact ih
        · rw [separatorGroups_trimBack, Nat.add_sub_cancel]
      · rw [cutBack_concat_other s hblank hother, separatorGroups_concat_other s hblank hother]

/-- White space in front of a text is in front of all its separators. -/
theorem groupsInFront_concat_blank {c : Char} (h : isBlank c = true) (s : List Char) :
    groupsInFront (s ++ [c]) = groupsInFront s := by
  have hne : c ≠ ';' := by
    rintro rfl
    exact absurd h (by decide)
  induction s with
  | nil => simp only [List.nil_append, groupsInFront, h, if_true]
  | cons d rest ih =>
      have hhead : (rest ++ [c]).head? = some ';' ↔ rest.head? = some ';' := by
        cases rest with
        | nil => simp [hne]
        | cons e rest => rfl
      rw [List.cons_append, groupsInFront, groupsInFront, ih]
      simp only [hhead]

theorem separatorGroups_trimFront (s : List Char) :
    separatorGroups (trimFront s) = separatorGroups s := by
  induction s with
  | nil => rfl
  | cons c rest ih =>
      cases hblank : isBlank c with
      | true =>
          rw [trimFront_cons_of_isBlank hblank, ih, separatorGroups, separatorGroups,
            List.reverse_cons, groupsInFront_concat_blank hblank]
      | false => rw [trimFront_cons_of_not_isBlank hblank]

/-- Every embedding takes one group of semicolons away, if there is one. -/
theorem separatorGroups_embeddedQuery (query : List Char) :
    separatorGroups (embeddedQuery query) = separatorGroups query - 1 := by
  rw [embeddedQuery_eq_cutBack, separatorGroups_cutBack, separatorGroups_trimFront]

/-! ## The order of the cuts

What is cut in front is the same before and after the cuts at the end, so all
that appending does can be seen at the end. -/

theorem embeddedQuery_eq_trimFront (query : List Char) :
    embeddedQuery query = trimFront (cutBack query) := by
  have hblank : ∀ s, trimFront (trimBack s) = trimBack (trimFront s) := trimFront_rdropWhile isBlank
  rw [embeddedQuery_eq_cutBack, cutBack, cutBack, hblank, trimFront_rdropWhile, hblank]

/-! ## Appending separators -/

theorem separatorGroups_le_concat {c : Char} (h : isSeparator c = true) (s : List Char) :
    separatorGroups s ≤ separatorGroups (s ++ [c]) := by
  obtain hblank | rfl | ⟨hblank, hother⟩ := blank_or_semicolon_or_other c
  · rw [separatorGroups_concat_blank s hblank]
  · rw [separatorGroups_concat_semicolon]
    split <;> omega
  · simp [isSeparator, hblank, hother] at h

theorem separatorGroups_le_append {w : List Char} (h : ∀ c ∈ w, isSeparator c = true)
    (s : List Char) : separatorGroups s ≤ separatorGroups (s ++ w) := by
  induction w using List.reverseRecOn with
  | nil => rw [List.append_nil]
  | append_singleton w c ih =>
      rw [← List.append_assoc]
      exact (ih fun d hd => h d (List.mem_append_left _ hd)).trans
        (separatorGroups_le_concat (h c (by simp)) (s ++ w))

theorem separatorGroups_pos {s : List Char} (h : s.getLast? = some ';') : 0 < separatorGroups s := by
  induction s using List.reverseRecOn with
  | nil => cases h
  | append_singleton s c ih =>
      obtain rfl : c = ';' := by rw [List.getLast?_concat] at h; exact Option.some.inj h
      rw [separatorGroups_concat_semicolon]
      split
      · next hlast => exact ih hlast
      · omega

/-- Where there is no group of semicolons only white space is cut. -/
theorem cutBack_of_separatorGroups_eq_zero {s : List Char} (h : separatorGroups s = 0) :
    cutBack s = trimBack s := by
  induction s using List.reverseRecOn with
  | nil => rfl
  | append_singleton s c ih =>
      obtain hblank | rfl | ⟨hblank, hother⟩ := blank_or_semicolon_or_other c
      · rw [separatorGroups_concat_blank s hblank] at h
        rw [cutBack_concat_blank s hblank, trimBack_concat_of_isBlank hblank s, ih h]
      · exact absurd h (separatorGroups_pos List.getLast?_concat).ne'
      · rw [cutBack_concat_other s hblank hother, trimBack_concat_of_not_isBlank hblank s]

/-- A separator that opens no second group is cut with the rest. -/
theorem cutBack_concat {c : Char} {s : List Char} (hc : isSeparator c = true)
    (h : separatorGroups (s ++ [c]) ≤ max 1 (separatorGroups s)) : cutBack (s ++ [c]) = cutBack s := by
  obtain hblank | rfl | ⟨hblank, hother⟩ := blank_or_semicolon_or_other c
  · exact cutBack_concat_blank s hblank
  · rw [separatorGroups_concat_semicolon] at h
    rw [cutBack_concat_semicolon]
    split
    · rfl
    · next hlast =>
        rw [if_neg hlast] at h
        exact (cutBack_of_separatorGroups_eq_zero (by omega)).symm
  · simp [isSeparator, hblank, hother] at hc

theorem cutBack_append {s w : List Char} (hw : ∀ c ∈ w, isSeparator c = true)
    (h : separatorGroups (s ++ w) ≤ max 1 (separatorGroups s)) : cutBack (s ++ w) = cutBack s := by
  induction w using List.reverseRecOn with
  | nil => rw [List.append_nil]
  | append_singleton w c ih =>
      have hc : isSeparator c = true := hw c (by simp)
      have hw' : ∀ d ∈ w, isSeparator d = true := fun d hd => hw d (List.mem_append_left _ hd)
      rw [← List.append_assoc] at h ⊢
      -- the number of groups only grows, so the bound holds all along the way
      have hstart := separatorGroups_le_append hw' s
      have hstep := separatorGroups_le_concat hc (s ++ w)
      rw [cutBack_concat hc (by omega), ih hw' (by omega)]

/-- Separators are embedded away exactly when they open no second group. -/
theorem embeddedQuery_append_iff {s w : List Char} (hw : ∀ c ∈ w, isSeparator c = true) :
    embeddedQuery (s ++ w) = embeddedQuery s ↔
      separatorGroups (s ++ w) ≤ max 1 (separatorGroups s) := by
  constructor
  · intro h
    have hgroups := separatorGroups_embeddedQuery (s ++ w)
    rw [h, separatorGroups_embeddedQuery] at hgroups
    omega
  · intro h
    rw [embeddedQuery_eq_trimFront, cutBack_append hw h, embeddedQuery_eq_trimFront]

/-! ## The embedded text -/

theorem isBlank_getLast_embeddedQuery (query : List Char) :
    ∀ c ∈ (embeddedQuery query).getLast?, isBlank c = false :=
  (trimBack_spec _).2

theorem embeddedQuery_ends_in_semicolon_iff (query : List Char) :
    (embeddedQuery query).getLast? = some ';' ↔ 1 < separatorGroups query := by
  have hgroups := separatorGroups_embeddedQuery query
  constructor
  · intro h
    have := separatorGroups_pos h
    omega
  · intro h
    -- a last character that is no semicolon would leave no group at all
    cases hlast : (embeddedQuery query).getLast? with
    | none =>
        rw [List.getLast?_eq_none_iff.mp hlast] at hgroups
        have : separatorGroups [] = 0 := rfl
        omega
    | some c =>
        have hblank := isBlank_getLast_embeddedQuery query c hlast
        obtain ⟨front, hfront⟩ := List.getLast?_eq_some_iff.mp hlast
        by_contra hne
        rw [hfront, separatorGroups_concat_other front hblank fun hc => hne (hc ▸ rfl)] at hgroups
        omega

theorem embeddedQuery_embeddedQuery_iff (query : List Char) :
    embeddedQuery (embeddedQuery query) = embeddedQuery query ↔ separatorGroups query ≤ 1 := by
  have hgroups := separatorGroups_embeddedQuery query
  constructor
  · intro h
    have hagain := separatorGroups_embeddedQuery (embeddedQuery query)
    rw [h] at hagain
    omega
  · intro h
    have hcut : cutBack (embeddedQuery query) = embeddedQuery query := by
      rw [cutBack_of_separatorGroups_eq_zero (by omega), embeddedQuery_eq_cutBack, cutBack]
      exact List.rdropWhile_idempotent _ _
    rw [embeddedQuery_eq_trimFront, hcut, embeddedQuery_eq_trimFront, trimFront_trimFront]

theorem explainStatement_inj {o : ExplainOptions} {a b : String} :
    explainStatement o a = explainStatement o b ↔ embeddedQuery a.toList = embeddedQuery b.toList := by
  rw [explainStatement, explainStatement, String.append_right_inj, String.ofList_inj]

/-- Separators behind a query leave the statement as it is exactly when they open
no second group of semicolons. The embedded text never ends in white space; it
ends in a semicolon exactly when there were two groups or more, and otherwise it
makes the same statement again. -/
theorem explainStatement_of_separators (o : ExplainOptions) (q : String) :
    (∀ w : String, (∀ c ∈ w.toList, isSeparator c = true) →
      (explainStatement o (q ++ w) = explainStatement o q ↔
        separatorGroups (q ++ w).toList ≤ max 1 (separatorGroups q.toList))) ∧
      (∀ c ∈ (embeddedQuery q.toList).getLast?, isBlank c = false) ∧
      ((embeddedQuery q.toList).getLast? = some ';' ↔ 1 < separatorGroups q.toList) ∧
      (explainStatement o (String.ofList (embeddedQuery q.toList)) = explainStatement o q ↔
        separatorGroups q.toList ≤ 1) := by
  refine ⟨?_, isBlank_getLast_embeddedQuery _, embeddedQuery_ends_in_semicolon_iff _, ?_⟩
  · intro w hw
    rw [explainStatement_inj, String.toList_append, embeddedQuery_append_iff hw]
  · rw [explainStatement_inj, String.toList_ofList, embeddedQuery_embeddedQuery_iff]

/-- Separators of all kinds behind a query with a semicolon, in one group with it. -/
theorem explainStatement_of_one_group :
    (∀ c ∈ ";;\t \u3000\n".toList, isSeparator c = true) ∧
      explainStatement {} ("SELECT 1 ;" ++ ";;\t \u3000\n") = explainStatement {} "SELECT 1 ;" ∧
      (embeddedQuery "SELECT 1 ;".toList).getLast? = some '1' ∧ isBlank '1' = false := by
  have hw : ∀ c ∈ ";;\t \u3000\n".toList, isSeparator c = true := List.all_eq_true.mp rfl
  have hlast : (embeddedQuery "SELECT 1 ;".toList).getLast? = some '1' := rfl
  obtain ⟨happend, hblank, -, -⟩ := explainStatement_of_separators {} "SELECT 1 ;"
  exact ⟨hw, (happend _ hw).mpr (by decide), hlast, hblank '1' hlast⟩

/-- With white space between two semicolons the first one stays. -/
theorem semicolon_stays :
    (∀ c ∈ "; ;".toList, isSeparator c = true) ∧
      explainStatement {} "SELECT 1"
        = "EXPLAIN (FORMAT JSON, COSTS, ANALYZE, BUFFERS) SELECT 1" ∧
      explainStatement {} ("SELECT 1" ++ "; ;")
        = "EXPLAIN (FORMAT JSON, COSTS, ANALYZE, BUFFERS) SELECT 1;" ∧
      explainStatement {} ("SELECT 1" ++ "; ;") ≠ explainStatement {} "SELECT 1" := by
  refine ⟨List.all_eq_true.mp rfl, rfl, rfl, ?_⟩
  decide

end QueryAdvisor
