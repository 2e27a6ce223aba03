import QueryAdvisor.Plan.Payload
import QueryAdvisor.Proofs.Trim

/-!
# No blank text is a JSON text

Two notions of white space meet here. A text counts as missing when all its
characters are blank, and blank is a property of many characters; between the
parts of a JSON text only four of them may stand. A reader that gets a blank
text passes over those four, and then it is at the end or at a blank character
that it knows nothing of. No value starts with a blank character, so it stops
with a fault either way.
-/

namespace QueryAdvisor

namespace Json

theorem isDigit_eq_false_of_isBlank {c : Char} (h : Text.isBlank c = true) :
    c.isDigit = false := by
  simp only [Text.isBlank, Text.covers, Text.blankRanges, List.any_cons, List.any_nil,
    Bool.or_eq_true, Bool.and_eq_true, decide_eq_true_eq, Bool.or_false] at h
  have hrange : ¬ (48 ≤ c.toNat ∧ c.toNat ≤ 57) := by omega
  rw [Char.isDigit, Bool.eq_false_iff]
  intro hdigit
  simp only [Bool.and_eq_true, decide_eq_true_eq] at hdigit
  exact hrange hdigit

theorem valueWith_of_end (bound : Nat) (nested : Option (Reader Tree)) {cursor : Cursor}
    (h : cursor.skipSpace.rest = []) :
    valueWith bound nested cursor = .error ⟨.endInValue, cursor.skipSpace.offset⟩ := by
  simp only [valueWith, bind, StateT.bind, Reader.peekToken?, h, Except.bind, List.head?_nil,
    Reader.failHere]

theorem valueWith_of_isBlank (bound : Nat) (nested : Option (Reader Tree)) {cursor : Cursor}
    {c : Char} {rest : List Char} (h : cursor.skipSpace.rest = c :: rest)
    (hc : Text.isBlank c = true) :
    valueWith bound nested cursor = .error ⟨.expectedValue, cursor.skipSpace.behindNext⟩ := by
  simp only [valueWith, bind, StateT.bind, Reader.peekToken?, h, Except.bind, List.head?_cons]
  generalize hhead : some c = head
  split <;> cases hhead
  -- the last case is a character of no special meaning, and the others are not blank
  case h_9 => rw [isDigit_eq_false_of_isBlank hc]; rfl
  all_goals exact absurd hc (by decide)

theorem valueWith_of_all_isBlank (bound : Nat) (nested : Option (Reader Tree)) {cursor : Cursor}
    (h : cursor.rest.all Text.isBlank = true) :
    ∃ fault, valueWith bound nested cursor = .error fault := by
  cases hrest : cursor.skipSpace.rest with
  | nil => exact ⟨_, valueWith_of_end bound nested hrest⟩
  | cons c rest =>
      have hdropped : cursor.rest.dropWhile isSpace = c :: rest := hrest
      have hmem : c ∈ cursor.rest.dropWhile isSpace := by
        rw [hdropped]
        exact List.mem_cons_self
      have hblank := List.all_eq_true.mp h c ((List.dropWhile_sublist isSpace).mem hmem)
      exact ⟨_, valueWith_of_isBlank bound nested hrest hblank⟩

theorem value_of_all_isBlank (bound depth : Nat) {cursor : Cursor}
    (h : cursor.rest.all Text.isBlank = true) :
    ∃ fault, value bound depth cursor = .error fault := by
  cases depth with
  | zero => exact valueWith_of_all_isBlank bound none h
  | succ depth => exact valueWith_of_all_isBlank bound _ h

end Json

theorem Tree.ofJson_of_isBlankText {text : String} (h : Text.isBlankText text = true) :
    ∃ fault, Tree.ofJson text = .error fault := by
  have hstart : (Json.Cursor.start text).rest.all Text.isBlank = true := h
  obtain ⟨fault, hfault⟩ := Json.value_of_all_isBlank (Json.roundBound text) Json.maxDepth hstart
  refine ⟨fault, ?_⟩
  rw [ofJson, ofJsonWithin, Json.readAll, hfault]
  rfl

/-- A payload that can be read is not blank. -/
theorem trimmed_ne_empty_of_decodePlan {text : String} {plan : Tree}
    (h : decodePlan text = .ok plan) : Text.trimmed text ≠ "" := by
  intro hblank
  obtain ⟨fault, hfault⟩ := Tree.ofJson_of_isBlankText ((Text.trimmed_eq_empty_iff text).mp hblank)
  rw [decodePlan, hfault] at h
  cases h

end QueryAdvisor
