import Mathlib.Data.List.Basic
import QueryAdvisor.Text.Quoted

/-!
# A quoted label tells its text

Every character of a label is written in one of three ways: as it is, as a
backslash and a letter, or as its number between braces. Which one it is shows
at its beginning, since a backslash never stands for itself, and where it ends
shows as well, since no digit is a brace. So the label can be cut into its
characters in one way only, whatever texts come from outside: two labels are the
same only if the texts are.
-/

namespace QueryAdvisor.Text

/-! ## Numbers in base sixteen -/

theorem digitChar_inj_of_lt : ∀ m < 16, ∀ n < 16, m.digitChar = n.digitChar → m = n := by
  decide

theorem hexDigits_of_lt {n : Nat} (h : n < 16) : hexDigits n = [n.digitChar] :=
  Nat.toDigits_of_lt_base h

theorem hexDigits_of_le {n : Nat} (h : 16 ≤ n) :
    hexDigits n = hexDigits (n / 16) ++ [(n % 16).digitChar] :=
  Nat.toDigits_of_base_le (by decide) h

theorem hexDigits_injective {m n : Nat} (h : hexDigits m = hexDigits n) : m = n := by
  have hne : ∀ k, hexDigits k ≠ [] := fun k => Nat.toDigits_ne_nil
  -- the last digit is cut off, and with it both numbers are divided
  induction m using Nat.strongRecOn generalizing n with
  | ind m ih =>
      rcases Nat.lt_or_ge m 16 with hm | hm <;> rcases Nat.lt_or_ge n 16 with hn | hn
      · rw [hexDigits_of_lt hm, hexDigits_of_lt hn] at h
        exact digitChar_inj_of_lt m hm n hn (List.head_eq_of_cons_eq h)
      · rw [hexDigits_of_lt hm, hexDigits_of_le hn, ← List.nil_append [m.digitChar]] at h
        exact absurd (List.append_inj_left' h rfl).symm (hne _)
      · rw [hexDigits_of_le hm, hexDigits_of_lt hn, ← List.nil_append [n.digitChar]] at h
        exact absurd (List.append_inj_left' h rfl) (hne _)
      · rw [hexDigits_of_le hm, hexDigits_of_le hn] at h
        obtain ⟨hfront, hlast⟩ := List.append_inj' h rfl
        have hdiv := ih (m / 16) (by omega) hfront
        have hmod := digitChar_inj_of_lt (m % 16) (by omega) (n % 16) (by omega)
          (List.head_eq_of_cons_eq hlast)
        omega

theorem brace_not_mem_hexDigits (n : Nat) : '\x7d' ∉ hexDigits n := by
  have hdigit : ∀ k, '\x7d' ≠ Nat.digitChar k := fun k => (Nat.digitChar_ne _ (by decide)).symm
  induction n using Nat.strongRecOn with
  | ind n ih =>
      rcases Nat.lt_or_ge n 16 with hn | hn
      · rw [hexDigits_of_lt hn, List.mem_singleton]
        exact hdigit n
      · rw [hexDigits_of_le hn, List.mem_append, List.mem_singleton, not_or]
        exact ⟨ih (n / 16) (by omega), hdigit (n % 16)⟩

/-- The digits of a number reach up to the brace. -/
theorem takeWhile_hexDigits (n : Nat) (rest : List Char) :
    (hexDigits n ++ '\x7d' :: rest).takeWhile (· != '\x7d') = hexDigits n := by
  rw [List.takeWhile_append_of_pos, List.takeWhile_cons_of_neg (by simp), List.append_nil]
  intro c hc
  rw [bne_iff_ne]
  rintro rfl
  exact brace_not_mem_hexDigits n hc

/-! ## One character -/

/-- The letters behind a backslash and the characters that they stand for. -/
def letters : List (Char × Char) :=
  [('"', '"'), ('\\', '\\'), ('t', '\t'), ('r', '\r'), ('n', '\n'), ('0', '\x00')]

/-- The ways to write a character of a label. -/
inductive Writes : Char → List Char → Prop where
  | itself {c : Char} (h : c ≠ '\\') : Writes c [c]
  | letter {c e : Char} (h : (e, c) ∈ letters) : Writes c ['\\', e]
  | number {c : Char} : Writes c (['\\', 'u', '\x7b'] ++ hexDigits c.toNat ++ ['\x7d'])

theorem quotedChar_of_mem : ∀ a ∈ letters, quotedChar a.2 = ['\\', a.1] := by
  decide

theorem writes_quotedChar (c : Char) : Writes c (quotedChar c) := by
  by_cases hletter : ∃ e, (e, c) ∈ letters
  · obtain ⟨e, he⟩ := hletter
    rw [quotedChar_of_mem _ he]
    exact .letter he
  · have hne : ∀ e d, (e, d) ∈ letters → c ≠ d := by
      rintro e d hmem rfl
      exact hletter ⟨e, hmem⟩
    have hnul : c.toNat ≠ 0 := fun h =>
      hne '0' '\x00' (by decide) (Char.toNat_inj.mp (by rw [h]; rfl))
    rw [quotedChar, if_neg (hne '"' '"' (by decide)), if_neg (hne '\\' '\\' (by decide)),
      if_neg (hne 't' '\t' (by decide)), if_neg (hne 'r' '\r' (by decide)),
      if_neg (hne 'n' '\n' (by decide)), if_neg hnul]
    split
    · exact .itself (hne '\\' '\\' (by decide))
    · exact .number

theorem letters_functional : ∀ a ∈ letters, ∀ b ∈ letters, a.1 = b.1 → a.2 = b.2 := by
  decide

theorem letter_ne_u : ∀ a ∈ letters, a.1 ≠ 'u' := by
  decide

/-- A written character can be told from what follows it. -/
theorem Writes.append_inj {c d : Char} {a b s t : List Char} (ha : Writes c a) (hb : Writes d b)
    (h : a ++ s = b ++ t) : c = d ∧ s = t := by
  cases ha with
  | itself hc =>
      cases hb with
      | itself _ => exact List.cons.inj h
      | letter _ => exact absurd (List.cons.inj h).1 hc
      | number => exact absurd (List.cons.inj h).1 hc
  | letter hc =>
      cases hb with
      | itself hd => exact absurd (List.cons.inj h).1.symm hd
      | letter hd =>
          obtain ⟨he, hrest⟩ := List.cons.inj (List.cons.inj h).2
          exact ⟨letters_functional _ hc _ hd he, hrest⟩
      | number => exact absurd (List.cons.inj (List.cons.inj h).2).1 (letter_ne_u _ hc)
  | number =>
      cases hb with
      | itself hd => exact absurd (List.cons.inj h).1.symm hd
      | letter hd => exact absurd (List.cons.inj (List.cons.inj h).2).1.symm (letter_ne_u _ hd)
      | number =>
          simp only [List.append_assoc, List.cons_append, List.nil_append, List.cons.injEq,
            true_and] at h
          have hnumber := congrArg (List.takeWhile (· != '\x7d')) h
          rw [takeWhile_hexDigits, takeWhile_hexDigits] at hnumber
          rw [hnumber, List.append_right_inj] at h
          exact ⟨Char.toNat_inj.mp (hexDigits_injective hnumber), (List.cons.inj h).2⟩

theorem quotedChar_ne_nil (c : Char) : quotedChar c ≠ [] := by
  have h := writes_quotedChar c
  intro hnil
  rw [hnil] at h
  cases h

/-! ## The whole label -/

theorem flatMap_quotedChar_injective {s t : List Char}
    (h : s.flatMap quotedChar = t.flatMap quotedChar) : s = t := by
  induction s generalizing t with
  | nil =>
      cases t with
      | nil => rfl
      | cons d t =>
          rw [List.flatMap_nil, List.flatMap_cons] at h
          exact absurd (List.append_eq_nil_iff.mp h.symm).1 (quotedChar_ne_nil d)
  | cons c s ih =>
      cases t with
      | nil =>
          rw [List.flatMap_nil, List.flatMap_cons] at h
          exact absurd (List.append_eq_nil_iff.mp h).1 (quotedChar_ne_nil c)
      | cons d t =>
          rw [List.flatMap_cons, List.flatMap_cons] at h
          obtain ⟨rfl, hrest⟩ := (writes_quotedChar c).append_inj (writes_quotedChar d) h
          rw [ih hrest]

/-- Labels are equal only if their texts are. -/
theorem quoted_injective {s t : String} (h : quoted s = quoted t) : s = t := by
  rw [quoted, quoted, String.ofList_inj] at h
  have hbody := List.append_inj_left' (List.cons.inj h).2 rfl
  exact String.toList_inj.mp (flatMap_quotedChar_injective hbody)

end QueryAdvisor.Text
