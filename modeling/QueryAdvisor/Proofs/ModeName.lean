import QueryAdvisor.Proofs.AsciiLowering
import QueryAdvisor.Proofs.LetterCase
import QueryAdvisor.Proofs.Trim
import QueryAdvisor.Request.Mode

/-!
# The texts that name a mode

A mode is recognised in what is left of a text when it is trimmed and lowered.
Both know all of Unicode, and still only ASCII gets through: the names hold no `k`,
so nothing but a letter of either case lowers to a letter of theirs. A text
therefore names a mode exactly when it is the name up to the case of its letters,
with any white space around it. All other texts are refused, and reported as they
were given.
-/

namespace QueryAdvisor

namespace Text

/-! ## Letters of a name -/

theorem lowersToAscii_of_toNat {c d : Char} (hascii : c.toNat < 0x80)
    (h : c.toLower.toNat = d.toNat) : LowersToAscii c d := by
  rw [← Char.toNat_inj.mp h]
  exact .ascii hascii

/-- The Kelvin sign apart, what lowers to a small letter is that letter or its capital. -/
theorem lowersToAscii_iff_sameLetter {c d : Char} (hd : d.isLower = true) (hk : d ≠ 'k') :
    LowersToAscii c d ↔ SameLetter c d := by
  have hsmall := (isLower_iff d).mp hd
  constructor
  · intro h
    cases h with
    | ascii _ =>
        have hnumber := toNat_toLower c
        split at hnumber
        · next hupper => exact .inr (.inl ⟨hupper, hnumber⟩)
        · exact .inl (Char.toNat_inj.mp hnumber).symm
    | kelvin => exact absurd rfl hk
  · rintro (rfl | ⟨hupper, hnumber⟩ | ⟨hupper, -⟩)
    · have hnot : ¬ c.isUpper = true := by
        rw [isUpper_iff]
        omega
      refine lowersToAscii_of_toNat (by omega) ?_
      rw [toNat_toLower, if_neg hnot]
    · have hrange := (isUpper_iff c).mp hupper
      refine lowersToAscii_of_toNat (by omega) ?_
      rw [toNat_toLower, if_pos hupper, hnumber]
    · -- a small letter is no capital
      have hrange := (isUpper_iff d).mp hupper
      omega

theorem SameLetter.isAlpha {c d : Char} (h : SameLetter c d) (hd : d.isLower = true) :
    c.isAlpha = true := by
  rcases h.eq_or_isAlpha with rfl | ⟨hc, -, -⟩
  · exact (isAlpha_iff c).mpr (.inr hd)
  · exact hc

theorem EqUpToCase.isAlpha {s t : String} (h : EqUpToCase s t)
    (ht : ∀ d ∈ t.toList, d.isLower = true) : ∀ c ∈ s.toList, c.isAlpha = true := by
  rw [EqUpToCase] at h
  generalize s.toList = cs at h ⊢
  generalize t.toList = ds at h ht
  induction h with
  | nil => exact List.forall_mem_nil _
  | cons hletter _ ih =>
      obtain ⟨hd, hrest⟩ := List.forall_mem_cons.mp ht
      exact List.forall_mem_cons.mpr ⟨hletter.isAlpha hd, ih hrest⟩

theorem isBlank_of_isAlpha {c : Char} (h : c.isAlpha = true) : isBlank c = false := by
  have hrange := toNat_of_isAlpha h
  rw [isBlank, covers, List.any_eq_false]
  -- no range of blank characters reaches into the letters
  have hapart : ∀ range ∈ blankRanges, range.2 < 65 ∨ 122 < range.1 := by decide
  intro range hmem
  have := hapart range hmem
  simp only [Bool.and_eq_true, decide_eq_true_eq]
  omega

/-- Letters with white space around them are what is left by trimming. -/
theorem trimmed_of_padded {before word after : String} (hbefore : isBlankText before = true)
    (hafter : isBlankText after = true) (hword : ∀ c ∈ word.toList, c.isAlpha = true) :
    trimmed (before ++ word ++ after) = word := by
  have hletter : ∀ c ∈ word.toList, isBlank c = false := fun c hc => isBlank_of_isAlpha (hword c hc)
  have htrims : Trims (before ++ word ++ after).toList word.toList := by
    refine ⟨⟨before.toList, after.toList, ?_, ?_, ?_⟩, ?_, ?_⟩
    · rw [String.toList_append, String.toList_append]
    · exact List.all_eq_true.mp hbefore
    · exact List.all_eq_true.mp hafter
    · exact fun c hc => hletter c (List.mem_of_mem_head? hc)
    · exact fun c hc => hletter c (List.mem_of_mem_getLast? hc)
  exact ((trims_iff_trimmed _ _).mp htrims).symm

end Text

namespace Mode

open QueryAdvisor.Text

/-! ## Names of modes -/

theorem name_letters (m : Mode) : ∀ d ∈ m.name.toList, d.isLower = true ∧ d ≠ 'k' := by
  have hall : (m.name.toList.all fun d => d.isLower && d != 'k') = true := by
    cases m <;> decide +kernel
  intro d hd
  have hboth := List.all_eq_true.mp hall d hd
  rw [Bool.and_eq_true, bne_iff_ne] at hboth
  exact hboth

theorem isAlpha_of_eqUpToCase {word : String} {m : Mode} (h : EqUpToCase word m.name) :
    ∀ c ∈ word.toList, c.isAlpha = true := by
  refine h.isAlpha ?_
  intro d hd
  exact (name_letters m d hd).1

theorem name_injective {m n : Mode} (h : m.name = n.name) : m = n := by
  cases m with
  | manual =>
      cases n with
      | manual => rfl
      | connected => exact absurd h (by decide)
  | connected =>
      cases n with
      | manual => exact absurd h (by decide)
      | connected => rfl

/-- A text is refused as it is, if its trimmed and lowered form is no name. -/
theorem ofText_cases (s : String) :
    (∃ m : Mode, ofText s = .ok m ∧ lowered (trimmed s) = m.name) ∨
      (ofText s = .error ⟨s⟩ ∧ ∀ m : Mode, lowered (trimmed s) ≠ m.name) := by
  rw [ofText]
  split
  · next hmanual => exact .inl ⟨.manual, rfl, hmanual⟩
  · next hmanual =>
      split
      · next hconnected => exact .inl ⟨.connected, rfl, hconnected⟩
      · next hconnected =>
          refine .inr ⟨rfl, fun m => ?_⟩
          cases m with
          | manual => exact hmanual
          | connected => exact hconnected

theorem lowered_eq_name_iff (s : String) (m : Mode) : lowered s = m.name ↔ EqUpToCase s m.name := by
  have hascii : ∀ d ∈ m.name.toList, d.toNat < 0x80 := by
    intro d hd
    have hrange := (isLower_iff d).mp (name_letters m d hd).1
    omega
  rw [lowered_eq_iff s hascii, EqUpToCase, List.forall₂_iff_zip, List.forall₂_iff_zip]
  refine and_congr_right fun _ => forall₂_congr fun c d => imp_congr_right fun hmem => ?_
  obtain ⟨hlower, hk⟩ := name_letters m d (List.of_mem_zip hmem).2
  exact lowersToAscii_iff_sameLetter hlower hk

theorem ofText_eq_ok_iff (s : String) (m : Mode) :
    ofText s = .ok m ↔ EqUpToCase (trimmed s) m.name := by
  rw [← lowered_eq_name_iff]
  rcases ofText_cases s with ⟨n, hok, hname⟩ | ⟨herror, hnone⟩
  · rw [hok, hname, Except.ok.injEq]
    constructor
    · rintro rfl
      rfl
    · exact name_injective
  · rw [herror]
    constructor
    · intro h
      cases h
    · intro h
      exact absurd h (hnone m)

theorem ofText_eq_error_iff (s : String) (e : Unsupported) :
    ofText s = .error e ↔ e = ⟨s⟩ ∧ ∀ m : Mode, ¬ EqUpToCase (trimmed s) m.name := by
  simp only [← lowered_eq_name_iff]
  rcases ofText_cases s with ⟨n, hok, hname⟩ | ⟨herror, hnone⟩
  · rw [hok]
    constructor
    · intro h
      cases h
    · rintro ⟨-, hnone⟩
      exact absurd hname (hnone n)
  · rw [herror, Except.error.injEq, eq_comm]
    exact (and_iff_left hnone).symm

/-- What is left of a text by trimming is all of it between the white space at its
ends. A text names a mode exactly when this is the name of the mode up to the case
of ASCII letters; any other text is refused and reported as it was given, among
them all in which a character outside ASCII is left. So the name of a mode in any
case, with any white space around it, names that mode. -/
theorem ofText_names_up_to_case :
    (∀ s core : String, Trims s.toList core.toList ↔ core = trimmed s) ∧
      (∀ s m, ofText s = .ok m ↔ EqUpToCase (trimmed s) m.name) ∧
      (∀ s e, ofText s = .error e ↔ e = ⟨s⟩ ∧ ∀ m : Mode, ¬ EqUpToCase (trimmed s) m.name) ∧
      (∀ s, (∃ c ∈ (trimmed s).toList, 0x80 ≤ c.toNat) → ofText s = .error ⟨s⟩) ∧
      ∀ (m : Mode) (before word after : String), isBlankText before = true →
        isBlankText after = true → EqUpToCase word m.name →
          ofText (before ++ word ++ after) = .ok m := by
  refine ⟨trims_iff_trimmed, ofText_eq_ok_iff, ofText_eq_error_iff, ?_, ?_⟩
  · rintro s ⟨c, hc, houtside⟩
    refine (ofText_eq_error_iff s ⟨s⟩).mpr ⟨rfl, fun m h => ?_⟩
    have hrange := toNat_of_isAlpha (isAlpha_of_eqUpToCase h c hc)
    omega
  · intro m before word after hbefore hafter hword
    rw [ofText_eq_ok_iff, trimmed_of_padded hbefore hafter (isAlpha_of_eqUpToCase hword)]
    exact hword

/-- White space of three kinds around a name in mixed case, and a Cyrillic letter in
place of a Latin one. -/
theorem ofText_of_padded_and_lookalike :
    isBlankText "\u3000\u0085" = true ∧ isBlankText "\n" = true ∧
      EqUpToCase "CoNNecteD" "connected" ∧
      ofText ("\u3000\u0085" ++ "CoNNecteD" ++ "\n") = .ok .connected ∧
      '\u0430' ∈ (trimmed " m\u0430nual").toList ∧
      ofText " m\u0430nual" = .error ⟨" m\u0430nual"⟩ := by
  have hbefore : isBlankText "\u3000\u0085" = true := by decide +kernel
  have hafter : isBlankText "\n" = true := by decide +kernel
  have hword : EqUpToCase "CoNNecteD" "connected" := by decide +kernel
  have hletter : '\u0430' ∈ (trimmed " m\u0430nual").toList := by decide +kernel
  obtain ⟨-, -, -, houtside, hpadded⟩ := ofText_names_up_to_case
  exact ⟨hbefore, hafter, hword, hpadded .connected _ _ _ hbefore hafter hword, hletter,
    houtside _ ⟨_, hletter, by decide⟩⟩

end Mode

end QueryAdvisor
