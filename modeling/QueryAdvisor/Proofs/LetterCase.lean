import Mathlib.Data.List.Forall2
import QueryAdvisor.Text.Case

/-!
# Texts that differ in letter case

Names that differ in the case of ASCII letters only have one lower-case form.
Character by character that is plain. But the form of a sigma hangs on its
neighbours: on whether the nearest character that is not case-ignorable is cased,
before it and behind it. A letter is cased in either case and ignorable in none,
so a change of case does not show there either, and the two texts are lowered
alike with what stands in front of them, however far that reaches.
-/

namespace QueryAdvisor.Text

/-- The same character, or the same ASCII letter in the other case. -/
def SameLetter (c d : Char) : Prop :=
  c = d ∨ (c.isUpper = true ∧ d.toNat = c.toNat + 32) ∨
    (d.isUpper = true ∧ c.toNat = d.toNat + 32)

instance (c d : Char) : Decidable (SameLetter c d) :=
  inferInstanceAs (Decidable (_ ∨ _))

/-- Texts that differ in the case of ASCII letters only. -/
def EqUpToCase (s t : String) : Prop :=
  List.Forall₂ SameLetter s.toList t.toList

instance (s t : String) : Decidable (EqUpToCase s t) :=
  inferInstanceAs (Decidable (List.Forall₂ _ _ _))

/-! ## ASCII letters -/

theorem isUpper_iff (c : Char) : c.isUpper = true ↔ 65 ≤ c.toNat ∧ c.toNat ≤ 90 := by
  show decide ('A'.val ≤ c.val ∧ c.val ≤ 'Z'.val) = true ↔ _
  rw [decide_eq_true_iff, UInt32.le_iff_toNat_le, UInt32.le_iff_toNat_le]
  exact Iff.rfl

theorem isLower_iff (c : Char) : c.isLower = true ↔ 97 ≤ c.toNat ∧ c.toNat ≤ 122 := by
  show (decide ('a'.val ≤ c.val) && decide (c.val ≤ 'z'.val)) = true ↔ _
  rw [Bool.and_eq_true, decide_eq_true_iff, decide_eq_true_iff, UInt32.le_iff_toNat_le,
    UInt32.le_iff_toNat_le]
  exact Iff.rfl

theorem isAlpha_iff (c : Char) : c.isAlpha = true ↔ c.isUpper = true ∨ c.isLower = true := by
  show (c.isUpper || c.isLower) = true ↔ _
  rw [Bool.or_eq_true]

theorem toNat_toLower (c : Char) :
    c.toLower.toNat = if c.isUpper = true then c.toNat + 32 else c.toNat := by
  by_cases hupper : c.isUpper = true
  · have hval : c.val ≥ 'A'.val ∧ c.val ≤ 'Z'.val := of_decide_eq_true hupper
    have hlower : c.toLower.val = c.val + 32 := congrArg Char.val (dif_pos hval)
    have hrange := (isUpper_iff c).mp hupper
    rw [if_pos hupper, ← Char.toNat_val, hlower, UInt32.toNat_add, Char.toNat_val]
    exact Nat.mod_eq_of_lt (show c.toNat + 32 < 2 ^ 32 by omega)
  · have hval : ¬ (c.val ≥ 'A'.val ∧ c.val ≤ 'Z'.val) := fun hval => hupper (decide_eq_true hval)
    have hsame : c.toLower = c := dif_neg hval
    rw [if_neg hupper, hsame]

theorem toNat_of_isAlpha {c : Char} (h : c.isAlpha = true) : 65 ≤ c.toNat ∧ c.toNat ≤ 122 := by
  rw [isAlpha_iff, isUpper_iff, isLower_iff] at h
  omega

/-- A capital and its small letter lower alike. -/
theorem toLower_eq_of_capital {u l : Char} (hupper : u.isUpper = true)
    (hnumber : l.toNat = u.toNat + 32) : l.isLower = true ∧ u.toLower = l.toLower := by
  have hrange := (isUpper_iff u).mp hupper
  have hlower : l.isLower = true := by
    rw [isLower_iff]
    omega
  have hnot : ¬ l.isUpper = true := by
    rw [isUpper_iff]
    omega
  refine ⟨hlower, Char.toNat_inj.mp ?_⟩
  rw [toNat_toLower, toNat_toLower, if_pos hupper, if_neg hnot, hnumber]

/-- Different characters that are the same letter are letters, and lower alike. -/
theorem SameLetter.eq_or_isAlpha {c d : Char} (h : SameLetter c d) :
    c = d ∨ (c.isAlpha = true ∧ d.isAlpha = true ∧ c.toLower = d.toLower) := by
  rcases h with rfl | ⟨hupper, hnumber⟩ | ⟨hupper, hnumber⟩
  · exact .inl rfl
  · obtain ⟨hlower, hsame⟩ := toLower_eq_of_capital hupper hnumber
    exact .inr ⟨(isAlpha_iff c).mpr (.inl hupper), (isAlpha_iff d).mpr (.inr hlower), hsame⟩
  · obtain ⟨hlower, hsame⟩ := toLower_eq_of_capital hupper hnumber
    exact .inr ⟨(isAlpha_iff c).mpr (.inr hlower), (isAlpha_iff d).mpr (.inl hupper), hsame.symm⟩

/-! ## What lowering sees of a letter -/

theorem cased_of_isAlpha {c : Char} (h : c.isAlpha = true) :
    covers casedRanges c.toNat = true := by
  rw [covers, List.any_eq_true]
  rw [isAlpha_iff, isUpper_iff, isLower_iff] at h
  rcases h with hupper | hlower
  · exact ⟨(0x41, 0x5a), by decide, by simpa using hupper⟩
  · exact ⟨(0x61, 0x7a), by decide, by simpa using hlower⟩

theorem not_caseIgnorable_of_isAlpha {c : Char} (h : c.isAlpha = true) :
    covers caseIgnorableRanges c.toNat = false := by
  -- the ignorable characters nearest to the letters stand between the two cases
  have hapart : ∀ range ∈ caseIgnorableRanges,
      range.2 < 65 ∨ (90 < range.1 ∧ range.2 < 97) ∨ 122 < range.1 := by decide +kernel
  rw [isAlpha_iff, isUpper_iff, isLower_iff] at h
  rw [covers, List.any_eq_false]
  intro range hmem
  have := hapart range hmem
  simp only [Bool.and_eq_true, decide_eq_true_eq]
  omega

section

variable {c d : Char} (h : SameLetter c d)

include h

theorem SameLetter.cased_eq : covers casedRanges c.toNat = covers casedRanges d.toNat := by
  rcases h.eq_or_isAlpha with rfl | ⟨hc, hd, -⟩
  · rfl
  · rw [cased_of_isAlpha hc, cased_of_isAlpha hd]

theorem SameLetter.caseIgnorable_eq :
    covers caseIgnorableRanges c.toNat = covers caseIgnorableRanges d.toNat := by
  rcases h.eq_or_isAlpha with rfl | ⟨hc, hd, -⟩
  · rfl
  · rw [not_caseIgnorable_of_isAlpha hc, not_caseIgnorable_of_isAlpha hd]

theorem SameLetter.lowerChar_eq : lowerChar c = lowerChar d := by
  rcases h.eq_or_isAlpha with rfl | ⟨hc, hd, hsame⟩
  · rfl
  · have hc' := toNat_of_isAlpha hc
    have hd' := toNat_of_isAlpha hd
    rw [lowerChar, if_pos (by omega), lowerChar, if_pos (by omega), hsame]

theorem SameLetter.sigma_iff : c.toNat = 0x3a3 ↔ d.toNat = 0x3a3 := by
  rcases h.eq_or_isAlpha with rfl | ⟨hc, hd, -⟩
  · exact Iff.rfl
  · have hc' := toNat_of_isAlpha hc
    have hd' := toNat_of_isAlpha hd
    omega

end

/-! ## Whole texts -/

theorem casedAhead_cons (c : Char) (rest : List Char) :
    casedAhead (c :: rest)
      = if covers caseIgnorableRanges c.toNat = true then casedAhead rest
        else covers casedRanges c.toNat := by
  rw [casedAhead, List.dropWhile_cons]
  by_cases hignorable : covers caseIgnorableRanges c.toNat = true
  · rw [if_pos hignorable, if_pos hignorable, casedAhead]
  · rw [if_neg hignorable, if_neg hignorable]

theorem casedAhead_eq_of_sameLetter {s t : List Char} (h : List.Forall₂ SameLetter s t) :
    casedAhead s = casedAhead t := by
  induction h with
  | nil => rfl
  | cons hletter _ ih =>
      rw [casedAhead_cons, casedAhead_cons, hletter.caseIgnorable_eq, hletter.cased_eq, ih]

/-- Texts are lowered alike behind texts that differ from each other as they do. -/
theorem lowerAfter_eq_of_sameLetter {before before' s t : List Char}
    (hbefore : List.Forall₂ SameLetter before before') (h : List.Forall₂ SameLetter s t) :
    lowerAfter before s = lowerAfter before' t := by
  induction h generalizing before before' with
  | nil => rw [lowerAfter, lowerAfter]
  | cons hletter hrest ih =>
      rw [lowerAfter, lowerAfter, ih (.cons hletter hbefore), hletter.lowerChar_eq,
        casedAhead_eq_of_sameLetter hbefore, casedAhead_eq_of_sameLetter hrest]
      simp only [hletter.sigma_iff]

/-- Texts that differ in the case of letters only have one lower-case form. -/
theorem EqUpToCase.lowered_eq {s t : String} (h : EqUpToCase s t) : lowered s = lowered t := by
  rw [lowered, lowered, lowerAfter_eq_of_sameLetter .nil h]

end QueryAdvisor.Text
