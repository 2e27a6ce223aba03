import QueryAdvisor.Report.Outline
import QueryAdvisor.Text.Pieces

/-!
# Lines of a text

A report is a list of lines, each ended by a line break. When no line has a line
break of its own, the lines are the pieces of the text between the breaks, with
an empty piece behind the last one. So the text tells its lines.
-/

namespace QueryAdvisor.Text

/-- Lines as one text, every line ended. -/
def ended (lines : List String) : String :=
  String.join (lines.map Outline.withNewline)

theorem ended_nil : ended [] = "" := rfl

theorem ended_cons (line : String) (lines : List String) :
    ended (line :: lines) = line ++ "\n" ++ ended lines := by
  rw [ended, List.map_cons, String.join_cons, Outline.withNewline, ended]

theorem ended_append (a b : List String) : ended (a ++ b) = ended a ++ ended b := by
  rw [ended, List.map_append, String.join_append, ended, ended]

/-- There is a piece even when there are no characters. -/
theorem pieces_ne_nil (separator : Char) (s : List Char) : pieces separator s ≠ [] := by
  cases s with
  | nil => exact List.cons_ne_nil _ _
  | cons c rest =>
      rw [pieces]
      split
      · exact List.cons_ne_nil _ _
      · split <;> exact List.cons_ne_nil _ _

theorem pieces_cons_of_ne {separator c : Char} (h : c ≠ separator) {s piece : List Char}
    {more : List (List Char)} (hs : pieces separator s = piece :: more) :
    pieces separator (c :: s) = (c :: piece) :: more := by
  rw [pieces, hs]
  exact if_neg h

theorem pieces_cons_separator (separator : Char) (s : List Char) :
    pieces separator (separator :: s) = [] :: pieces separator s := by
  obtain ⟨piece, more, hs⟩ := List.exists_cons_of_ne_nil (pieces_ne_nil separator s)
  rw [pieces, hs]
  exact if_pos rfl

/-- The first piece reaches up to the first separator. -/
theorem pieces_append_separator {separator : Char} {piece : List Char} (h : separator ∉ piece)
    (s : List Char) :
    pieces separator (piece ++ separator :: s) = piece :: pieces separator s := by
  induction piece with
  | nil => rw [List.nil_append, pieces_cons_separator]
  | cons c piece ih =>
      rw [List.mem_cons, not_or] at h
      obtain ⟨hc, hpiece⟩ := h
      exact pieces_cons_of_ne (Ne.symm hc) (ih hpiece)

theorem pieces_ended {lines : List String} (h : ∀ line ∈ lines, '\n' ∉ line.toList) :
    pieces '\n' (ended lines).toList = lines.map String.toList ++ [[]] := by
  induction lines with
  | nil => rfl
  | cons line lines ih =>
      obtain ⟨hline, hlines⟩ := List.forall_mem_cons.mp h
      have htext : (ended (line :: lines)).toList
          = line.toList ++ '\n' :: (ended lines).toList := by
        rw [ended_cons, String.toList_append, String.toList_append, List.append_assoc]
        rfl
      rw [htext, pieces_append_separator hline, ih hlines, List.map_cons, List.cons_append]

theorem ended_injective {a b : List String} (ha : ∀ line ∈ a, '\n' ∉ line.toList)
    (hb : ∀ line ∈ b, '\n' ∉ line.toList) (h : ended a = ended b) : a = b := by
  have hpieces : a.map String.toList ++ [[]] = b.map String.toList ++ [[]] := by
    rw [← pieces_ended ha, ← pieces_ended hb, h]
  exact (List.map_inj_right fun _ _ => String.toList_injective).mp
    (List.append_cancel_right hpieces)

end QueryAdvisor.Text
