import Mathlib.Data.List.DropRight
import Mathlib.Data.List.TakeWhile
import QueryAdvisor.Text.Blank

/-!
# Trimming and blank texts

Whether a text is missing is asked in two ways: nothing is left of it when it
is trimmed, or all its characters are blank. Both are the same question. One
direction drops everything from the front; the other has to rule out that the
first character left by the front is dropped at the back, and it is not,
because it is not blank.

Trimming at the back is described by what it does with one more character at the
end, for inductions that go from there. `Trims` says what is left by trimming
without saying how it is found, and there is only one such text.
-/

namespace QueryAdvisor.Text

theorem trimFront_cons_of_isBlank {c : Char} (h : isBlank c = true) (s : List Char) :
    trimFront (c :: s) = trimFront s := by
  rw [trimFront, List.dropWhile_cons_of_pos h, trimFront]

theorem trimFront_cons_of_not_isBlank {c : Char} (h : isBlank c = false) (s : List Char) :
    trimFront (c :: s) = c :: s := by
  rw [trimFront, List.dropWhile_cons_of_neg (by rw [h]; simp)]

theorem trimFront_trimFront (s : List Char) : trimFront (trimFront s) = trimFront s :=
  List.dropWhile_idempotent isBlank s

theorem trimBack_concat_of_isBlank {c : Char} (h : isBlank c = true) (s : List Char) :
    trimBack (s ++ [c]) = trimBack s :=
  List.rdropWhile_concat_pos isBlank s c h

theorem trimBack_concat_of_not_isBlank {c : Char} (h : isBlank c = false) (s : List Char) :
    trimBack (s ++ [c]) = s ++ [c] :=
  List.rdropWhile_concat_neg isBlank s c (by rw [h]; exact Bool.false_ne_true)

/-- What is dropped in front and what is dropped at the back do not depend on
which comes first. -/
theorem trimFront_rdropWhile (p : Char → Bool) (s : List Char) :
    trimFront (s.rdropWhile p) = (trimFront s).rdropWhile p := by
  induction s using List.reverseRecOn with
  | nil => rfl
  | append_singleton s c ih =>
      rw [trimFront, trimFront, List.dropWhile_append]
      cases hp : p c with
      | true =>
          rw [List.rdropWhile_concat_pos p s c hp, ← trimFront, ih]
          split
          · next hempty =>
              have hnil : trimFront s = [] := List.isEmpty_iff.mp hempty
              rw [hnil]
              cases hblank : isBlank c <;> simp [hblank, hp, List.rdropWhile_singleton]
          · rw [List.rdropWhile_concat_pos p _ c hp, trimFront]
      | false =>
          have hkept : ¬ p c = true := by rw [hp]; exact Bool.false_ne_true
          rw [List.rdropWhile_concat_neg p s c hkept, List.dropWhile_append]
          split
          · cases hblank : isBlank c <;> simp [hblank, hp, List.rdropWhile_singleton]
          · rw [List.rdropWhile_concat_neg p _ c hkept]

theorem trimBack_eq_nil_iff (s : List Char) : trimBack s = [] ↔ s.all isBlank = true := by
  rw [trimBack, List.reverse_eq_nil_iff, List.dropWhile_eq_nil_iff, List.all_eq_true]
  simp only [List.mem_reverse]

/-- Trimming leaves nothing exactly of what is blank throughout. -/
theorem trim_eq_nil_iff (s : List Char) : trim s = [] ↔ s.all isBlank = true := by
  rw [trim]
  induction s with
  | nil => exact ⟨fun _ => rfl, fun _ => rfl⟩
  | cons c rest ih =>
      cases hc : isBlank c with
      | true => rw [trimFront_cons_of_isBlank hc, ih, List.all_cons, hc, Bool.true_and]
      | false => rw [trimFront_cons_of_not_isBlank hc, trimBack_eq_nil_iff]

/-- What is dropped from the back is blank, and what is left does not end so. -/
theorem trimBack_spec (s : List Char) :
    (∃ blanks, s = trimBack s ++ blanks ∧ ∀ c ∈ blanks, isBlank c = true) ∧
      ∀ c ∈ (trimBack s).getLast?, isBlank c = false := by
  constructor
  · refine ⟨(s.reverse.takeWhile isBlank).reverse, ?_, ?_⟩
    · rw [trimBack, ← List.reverse_append, List.takeWhile_append_dropWhile, List.reverse_reverse]
    · intro c hc
      exact List.mem_takeWhile_imp (List.mem_reverse.mp hc)
  · intro c hc
    have hhead := List.head?_dropWhile_not isBlank s.reverse
    rw [trimBack, List.getLast?_reverse, Option.mem_def] at hc
    rw [hc] at hhead
    exact hhead

theorem trimmed_eq_empty_iff (s : String) : trimmed s = "" ↔ isBlankText s = true := by
  rw [isBlankText, ← trim_eq_nil_iff, trimmed]
  constructor
  · intro h
    simpa using congrArg String.toList h
  · intro h
    rw [h]

/-! ## Padding -/

/-- What is left of a text when white space is taken from both ends, and no less
than all of it. -/
structure Trims (s core : List Char) : Prop where
  padded : ∃ before after, s = before ++ core ++ after ∧
    (∀ c ∈ before, isBlank c = true) ∧ ∀ c ∈ after, isBlank c = true
  front : ∀ c ∈ core.head?, isBlank c = false
  back : ∀ c ∈ core.getLast?, isBlank c = false

theorem trim_append_front {before : List Char} (h : ∀ c ∈ before, isBlank c = true)
    (s : List Char) : trim (before ++ s) = trim s := by
  rw [trim, trimFront, List.dropWhile_append_of_pos h, trim, trimFront]

theorem trimBack_append {after : List Char} (h : ∀ c ∈ after, isBlank c = true) (s : List Char) :
    trimBack (s ++ after) = trimBack s := by
  rw [trimBack, List.reverse_append, List.dropWhile_append_of_pos, trimBack]
  intro c hc
  exact h c (List.mem_reverse.mp hc)

/-- What does not begin with a blank character is not cut in front. -/
theorem trim_append_of_front {core after : List Char} (h : ∀ c ∈ core.head?, isBlank c = false)
    (hafter : ∀ c ∈ after, isBlank c = true) : trim (core ++ after) = trimBack core := by
  cases core with
  | nil => rw [List.nil_append, (trim_eq_nil_iff after).mpr (List.all_eq_true.mpr hafter)]; rfl
  | cons c rest =>
      rw [trim, List.cons_append, trimFront_cons_of_not_isBlank (h c rfl), ← List.cons_append,
        trimBack_append hafter]

theorem trimBack_of_back {core : List Char} (h : ∀ c ∈ core.getLast?, isBlank c = false) :
    trimBack core = core := by
  rcases List.eq_nil_or_concat' core with rfl | ⟨front, c, rfl⟩
  · rfl
  · exact trimBack_concat_of_not_isBlank (h c (by simp)) front

theorem trims_trim (s : List Char) : Trims s (trim s) := by
  obtain ⟨⟨after, hsplit, hafter⟩, hback⟩ := trimBack_spec (trimFront s)
  refine ⟨⟨s.takeWhile isBlank, after, ?_, ?_, hafter⟩, ?_, hback⟩
  · rw [trim, List.append_assoc, ← hsplit, trimFront, List.takeWhile_append_dropWhile]
  · intro c hc
    exact List.mem_takeWhile_imp hc
  · intro c hc
    -- the first character that is left stood first before the back was cut
    have hhead := List.head?_dropWhile_not isBlank s
    rw [← trimFront, hsplit, List.head?_append, ← trim, Option.mem_def.mp hc] at hhead
    exact hhead

/-- There is one way to trim a text. -/
theorem trims_iff (s core : List Char) : Trims s core ↔ core = trim s := by
  constructor
  · rintro ⟨⟨before, after, rfl, hbefore, hafter⟩, hfront, hback⟩
    rw [List.append_assoc, trim_append_front hbefore, trim_append_of_front hfront hafter,
      trimBack_of_back hback]
  · rintro rfl
    exact trims_trim s

theorem trims_iff_trimmed (s core : String) : Trims s.toList core.toList ↔ core = trimmed s := by
  rw [trims_iff, trimmed, ← String.toList_inj, String.toList_ofList]

end QueryAdvisor.Text
