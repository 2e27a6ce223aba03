import Mathlib.Data.List.Forall2
import QueryAdvisor.Text.Case

/-!
# Which texts lower to ASCII

Names are compared in lower case, and lowering is defined for all of Unicode. So
the question is what can turn into an ASCII name. The table answers it: a
character outside ASCII is shifted to another one outside. Of the two that are not
in the table, the dotted capital I keeps its dot as a character of its own, and both
forms of a sigma are Greek. The one exception is the Kelvin sign, which lowers to
the letter `k`.

Hence a text lowers to an ASCII text exactly when it is made of ASCII and Kelvin
signs, and then it is lowered character by character.
-/

namespace QueryAdvisor.Text

/-- The sign of the unit, a character apart from the letter. -/
def kelvinSign : Char := '\u212a'

/-! ## One character -/

/-- The lowered code points of a run are characters outside ASCII. -/
def CaseRun.StaysOutside (run : CaseRun) : Prop :=
  0x80 ≤ run.first + run.shift ∧
    (run.last + run.shift < 0xd800 ∨
      0xdfff < run.first + run.shift ∧ run.last + run.shift < 0x110000)

instance (run : CaseRun) : Decidable run.StaysOutside :=
  inferInstanceAs (Decidable (_ ∧ _))

theorem caseRuns_stay_outside : ∀ run ∈ caseRuns,
    run.last < 0x80 ∨ (run.first = 0x212a ∧ run.last = 0x212a) ∨ run.StaysOutside := by
  decide +kernel

theorem CaseRun.StaysOutside.le_toNat {run : CaseRun} (h : run.StaysOutside) {n : Nat}
    (hfirst : run.first ≤ n) (hlast : n ≤ run.last) :
    0x80 ≤ (Char.ofNat (n + run.shift).toNat).toNat := by
  obtain ⟨hlow, hvalid⟩ := h
  -- no surrogate is among the code points, so the number is not lost
  have hchar : (n + run.shift).toNat.isValidChar := by
    rcases hvalid with hbelow | ⟨habove, hend⟩
    · exact .inl (by omega)
    · exact .inr (by omega)
  have hsame : (Char.ofNat (n + run.shift).toNat).toNat = (n + run.shift).toNat := by
    rw [Char.ofNat, dif_pos hchar]
    rfl
  omega

/-- A character outside ASCII, the Kelvin sign apart, leaves one outside ASCII. -/
theorem exists_outside_of_lowerChar {c : Char} (h : 0x80 ≤ c.toNat) (hkelvin : c ≠ kelvinSign) :
    ∃ d ∈ lowerChar c, 0x80 ≤ d.toNat := by
  rw [lowerChar, if_neg (by omega)]
  split
  · exact ⟨Char.ofNat 0x307, by simp, by decide⟩
  · split
    · next run hfind =>
        have hmem := List.mem_of_find?_eq_some hfind
        have hcovers := List.find?_some hfind
        simp only [CaseRun.covers, Bool.and_eq_true, decide_eq_true_eq] at hcovers
        obtain ⟨⟨hfirst, hlast⟩, -⟩ := hcovers
        rcases caseRuns_stay_outside run hmem with hascii | ⟨hsign, hsign'⟩ | hstays
        · omega
        · have hnumber : c.toNat = kelvinSign.toNat := by
            show c.toNat = 0x212a
            omega
          exact absurd (Char.toNat_inj.mp hnumber) hkelvin
        · exact ⟨_, List.mem_singleton_self _, hstays.le_toNat hfirst hlast⟩
    · exact ⟨c, List.mem_singleton_self c, h⟩

/-- The characters that lower to an ASCII character, and to which. -/
inductive LowersToAscii : Char → Char → Prop where
  | ascii {c : Char} (h : c.toNat < 0x80) : LowersToAscii c c.toLower
  | kelvin : LowersToAscii kelvinSign 'k'

theorem LowersToAscii.lowerChar_eq {c d : Char} (h : LowersToAscii c d) : lowerChar c = [d] := by
  cases h with
  | ascii h => rw [lowerChar, if_pos h]
  | kelvin => decide +kernel

theorem LowersToAscii.unique {c d e : Char} (hd : LowersToAscii c d) (he : LowersToAscii c e) :
    d = e := by
  have h := hd.lowerChar_eq
  rw [he.lowerChar_eq] at h
  exact (List.singleton_inj.mp h).symm

theorem LowersToAscii.ne_sigma {c d : Char} (h : LowersToAscii c d) : c.toNat ≠ 0x3a3 := by
  cases h with
  | ascii h => omega
  | kelvin => decide

theorem lowersToAscii_or_outside (c : Char) :
    (∃ d, LowersToAscii c d) ∨ (0x80 ≤ c.toNat ∧ c ≠ kelvinSign) := by
  rcases Nat.lt_or_ge c.toNat 0x80 with hascii | houtside
  · exact .inl ⟨_, .ascii hascii⟩
  · by_cases hkelvin : c = kelvinSign
    · subst hkelvin
      exact .inl ⟨_, .kelvin⟩
    · exact .inr ⟨houtside, hkelvin⟩

/-! ## A text -/

theorem lowerAfter_cons {c d : Char} (h : LowersToAscii c d) (before rest : List Char) :
    lowerAfter before (c :: rest) = d :: lowerAfter (c :: before) rest := by
  rw [lowerAfter, if_neg h.ne_sigma, h.lowerChar_eq, List.singleton_append]

theorem exists_outside_of_lowerAfter_cons {c : Char} (h : 0x80 ≤ c.toNat)
    (hkelvin : c ≠ kelvinSign) (before rest : List Char) :
    ∃ d ∈ lowerAfter before (c :: rest), 0x80 ≤ d.toNat := by
  rw [lowerAfter]
  split
  · -- whichever form the sigma takes
    refine ⟨_, List.mem_cons_self, ?_⟩
    split
    · decide
    · decide
  · obtain ⟨d, hd, houtside⟩ := exists_outside_of_lowerChar h hkelvin
    exact ⟨d, List.mem_append_left _ hd, houtside⟩

/-- A text lowers to an ASCII text character by character, or not at all. -/
theorem lowerAfter_eq_iff (before s : List Char) {w : List Char} (hw : ∀ d ∈ w, d.toNat < 0x80) :
    lowerAfter before s = w ↔ List.Forall₂ LowersToAscii s w := by
  induction s generalizing before w with
  | nil => rw [lowerAfter, List.forall₂_nil_left_iff, eq_comm]
  | cons c rest ih =>
      rcases lowersToAscii_or_outside c with ⟨d, hd⟩ | ⟨houtside, hkelvin⟩
      · rw [lowerAfter_cons hd]
        constructor
        · rintro rfl
          have hrest := (List.forall_mem_cons.mp hw).2
          exact .cons hd ((ih (c :: before) hrest).mp rfl)
        · intro h
          cases h with
          | cons he hrest =>
              rw [hd.unique he, (ih (c :: before) (List.forall_mem_cons.mp hw).2).mpr hrest]
      · -- on neither side can `c` give rise to an ASCII character
        constructor
        · rintro rfl
          obtain ⟨d, hd, hle⟩ := exists_outside_of_lowerAfter_cons houtside hkelvin before rest
          exact absurd (hw d hd) (Nat.not_lt.mpr hle)
        · intro h
          cases h with
          | cons he _ =>
              cases he with
              | ascii hascii => exact absurd hascii (Nat.not_lt.mpr houtside)
              | kelvin => exact absurd rfl hkelvin

theorem lowered_eq_iff (s : String) {w : String} (hw : ∀ d ∈ w.toList, d.toNat < 0x80) :
    lowered s = w ↔ List.Forall₂ LowersToAscii s.toList w.toList := by
  rw [← lowerAfter_eq_iff [] s.toList hw, lowered, ← String.toList_inj, String.toList_ofList]

example : lowered "\u212aELVIN" = "kelvin" := by decide +kernel

end QueryAdvisor.Text
