import QueryAdvisor.Proofs.JsonGrammar
import QueryAdvisor.Proofs.TextLines
import QueryAdvisor.Report.Text

/-!
# A list of suggestions tells its suggestions

The entry of a suggestion has a heading, a line for each of its two texts that is
not empty, and an empty line. Which lines there are depends on the texts, and the
texts can look like anything. Still every line can be told from what may stand in
its place: the two marks differ, both differ from the empty line that ends the
entry, and the heading is known by its place. So an entry tells its suggestion and
where it ends, and the text tells the list.

The heading of an entry stands behind the lines of the entries before it, under the
number of the entry.
-/

namespace QueryAdvisor

open Text

/-! ## The lines of an entry -/

/-- The first line of an entry. -/
def heading (number : Nat) (s : Suggestion) : String :=
  String.ofList (Nat.toDigits 10 number) ++ ". [" ++ s.severity.name ++ "] " ++ s.title

/-- The line of a text behind its mark. -/
def behindMark (mark text : String) : String :=
  "   " ++ mark ++ " " ++ text

/-- A line for a text, unless it is empty. -/
def markedLines (mark text : String) : List String :=
  if text = "" then [] else [behindMark mark text]

/-- The lines of a suggestion under its number. -/
def entryLines (number : Nat) (s : Suggestion) : List String :=
  heading number s :: (markedLines "-" s.description ++ (markedLines "*" s.recommendation ++ [""]))

/-- The lines of suggestions under consecutive numbers. -/
def entriesLines (number : Nat) : List Suggestion → List String
  | [] => []
  | s :: rest => entryLines number s ++ entriesLines (number + 1) rest

/-- The lines of a list of suggestions. -/
def suggestionLines (suggestions : List Suggestion) : List String :=
  "Suggestions:" :: (if suggestions.isEmpty then ["  (none)"] else entriesLines 1 suggestions)

theorem ended_markedLines (mark text : String) :
    ended (markedLines mark text) = markedLine mark text := by
  rw [markedLines, markedLine]
  split
  · rw [ended_nil]
  · rw [ended_cons, ended_nil, behindMark, String.append_empty]

theorem ended_entryLines (number : Nat) (s : Suggestion) :
    ended (entryLines number s) = suggestionEntry number s := by
  have hblank : ended [""] = "\n" := by decide
  rw [entryLines, ended_cons, ended_append, ended_append, ended_markedLines, ended_markedLines,
    hblank, heading, suggestionEntry]
  simp only [String.append_assoc]

theorem ended_entriesLines (number : Nat) (suggestions : List Suggestion) :
    ended (entriesLines number suggestions) = suggestionEntries number suggestions := by
  induction suggestions generalizing number with
  | nil => rw [entriesLines, suggestionEntries, ended_nil]
  | cons s rest ih =>
      rw [entriesLines, suggestionEntries, ended_append, ended_entryLines, ih]

theorem suggestionText_eq_ended (suggestions : List Suggestion) :
    suggestionText suggestions = ended (suggestionLines suggestions) := by
  have htitle : "Suggestions:" ++ "\n" = "Suggestions:\n" := by decide
  have hnone : ended ["  (none)"] = "  (none)\n" := by decide
  rw [suggestionText, suggestionLines, ended_cons, htitle]
  split
  · rw [hnone]
  · rw [ended_entriesLines]

/-! ## No line breaks in a line -/

/-- No text of a suggestion breaks its line. -/
structure Suggestion.OneLine (s : Suggestion) : Prop where
  title : '\n' ∉ s.title.toList
  description : '\n' ∉ s.description.toList
  recommendation : '\n' ∉ s.recommendation.toList

theorem newline_not_mem_append {a b : String} (ha : '\n' ∉ a.toList) (hb : '\n' ∉ b.toList) :
    '\n' ∉ (a ++ b).toList := by
  rw [String.toList_append, List.mem_append, not_or]
  exact ⟨ha, hb⟩

theorem newline_not_mem_heading (number : Nat) {s : Suggestion} (h : s.OneLine) :
    '\n' ∉ (heading number s).toList := by
  have hnumber : '\n' ∉ (String.ofList (Nat.toDigits 10 number)).toList := by
    rw [String.toList_ofList]
    intro hmem
    have hdigit := (Json.digits_toDigits number).2 _ hmem
    cases hdigit
  have hseverity : '\n' ∉ s.severity.name.toList := by cases s.severity <;> decide
  have hopen : '\n' ∉ ". [".toList := by decide
  have hclose : '\n' ∉ "] ".toList := by decide
  rw [heading]
  exact newline_not_mem_append (newline_not_mem_append (newline_not_mem_append
    (newline_not_mem_append hnumber hopen) hseverity) hclose) h.title

theorem newline_not_mem_markedLines {mark text : String} (hmark : '\n' ∉ mark.toList)
    (htext : '\n' ∉ text.toList) : ∀ line ∈ markedLines mark text, '\n' ∉ line.toList := by
  have hfront : '\n' ∉ "   ".toList := by decide
  have hblank : '\n' ∉ " ".toList := by decide
  rw [markedLines]
  split
  · exact List.forall_mem_nil _
  · rw [List.forall_mem_singleton, behindMark]
    exact newline_not_mem_append (newline_not_mem_append (newline_not_mem_append hfront hmark)
      hblank) htext

theorem newline_not_mem_entryLines (number : Nat) {s : Suggestion} (h : s.OneLine) :
    ∀ line ∈ entryLines number s, '\n' ∉ line.toList := by
  rw [entryLines, List.forall_mem_cons, List.forall_mem_append, List.forall_mem_append,
    List.forall_mem_singleton]
  exact ⟨newline_not_mem_heading number h,
    newline_not_mem_markedLines (by decide) h.description,
    newline_not_mem_markedLines (by decide) h.recommendation, by decide⟩

theorem newline_not_mem_suggestionLines {suggestions : List Suggestion}
    (h : ∀ s ∈ suggestions, s.OneLine) :
    ∀ line ∈ suggestionLines suggestions, '\n' ∉ line.toList := by
  have hentries : ∀ number, ∀ line ∈ entriesLines number suggestions, '\n' ∉ line.toList := by
    induction suggestions with
    | nil => exact fun _ => List.forall_mem_nil _
    | cons s rest ih =>
        intro number
        obtain ⟨hs, hrest⟩ := List.forall_mem_cons.mp h
        rw [entriesLines, List.forall_mem_append]
        exact ⟨newline_not_mem_entryLines number hs, ih hrest (number + 1)⟩
  rw [suggestionLines, List.forall_mem_cons]
  refine ⟨by decide, ?_⟩
  split
  · rw [List.forall_mem_singleton]
    decide
  · exact hentries 1

/-! ## An entry tells its suggestion -/

attribute [ext] Suggestion

/-- A severity between its brackets can be told from the title behind it. -/
theorem severity_append_inj {a b : Severity} {s t : String}
    (h : a.name ++ "] " ++ s = b.name ++ "] " ++ t) : a = b ∧ s = t := by
  have hchars := congrArg String.toList h
  cases a <;> cases b <;> simp [Severity.name] at hchars ⊢ <;>
    exact String.toList_injective hchars

theorem heading_inj {number : Nat} {s t : Suggestion} (h : heading number s = heading number t) :
    s.severity = t.severity ∧ s.title = t.title := by
  rw [heading, heading] at h
  simp only [String.append_assoc, String.append_right_inj] at h
  exact severity_append_inj (by simpa only [String.append_assoc] using h)

theorem behindMark_inj {mark a b : String} : behindMark mark a = behindMark mark b ↔ a = b := by
  rw [behindMark, behindMark, String.append_right_inj]

/-- Lines of which the first has not a certain mark. -/
def Unmarked (mark : String) (lines : List String) : Prop :=
  ∀ text, lines.head? ≠ some (behindMark mark text)

/-- A marked line can be told from its absence. -/
theorem markedLines_append_inj {mark a b : String} {s t : List String} (hs : Unmarked mark s)
    (ht : Unmarked mark t) (h : markedLines mark a ++ s = markedLines mark b ++ t) :
    a = b ∧ s = t := by
  rw [markedLines, markedLines] at h
  split at h
  · next ha =>
      split at h
      · next hb => exact ⟨ha.trans hb.symm, h⟩
      · exact absurd (congrArg List.head? h) (hs b)
  · split at h
    · exact absurd (congrArg List.head? h).symm (ht a)
    · obtain ⟨hline, hrest⟩ := List.cons.inj h
      exact ⟨behindMark_inj.mp hline, hrest⟩

theorem unmarked_empty_line (mark : String) (lines : List String) : Unmarked mark ("" :: lines) := by
  intro text h
  have hchars := congrArg String.toList (Option.some.inj h)
  simp [behindMark] at hchars

theorem unmarked_markedLines (text : String) (lines : List String) :
    Unmarked "-" (markedLines "*" text ++ "" :: lines) := by
  rw [markedLines]
  split
  · exact unmarked_empty_line "-" lines
  · intro text' h
    have hchars := congrArg String.toList (Option.some.inj h)
    simp [behindMark] at hchars

/-- The lines of an entry can be told from what follows them. -/
theorem entryLines_append_inj {number : Nat} {s t : Suggestion} {a b : List String}
    (h : entryLines number s ++ a = entryLines number t ++ b) : s = t ∧ a = b := by
  simp only [entryLines, List.cons_append, List.append_assoc, List.nil_append] at h
  obtain ⟨hheading, hrest⟩ := List.cons.inj h
  obtain ⟨hseverity, htitle⟩ := heading_inj hheading
  obtain ⟨hdescription, hrest⟩ :=
    markedLines_append_inj (unmarked_markedLines _ a) (unmarked_markedLines _ b) hrest
  obtain ⟨hrecommendation, hrest⟩ :=
    markedLines_append_inj (unmarked_empty_line "*" a) (unmarked_empty_line "*" b) hrest
  exact ⟨Suggestion.ext htitle hdescription hrecommendation hseverity, (List.cons.inj hrest).2⟩

theorem entriesLines_injective {number : Nat} {a b : List Suggestion}
    (h : entriesLines number a = entriesLines number b) : a = b := by
  induction a generalizing number b with
  | nil =>
      cases b with
      | nil => rfl
      | cons t b => cases h
  | cons s a ih =>
      cases b with
      | nil => cases h
      | cons t b =>
          obtain ⟨rfl, hrest⟩ := entryLines_append_inj h
          rw [ih hrest]

theorem entriesLines_ne_none (suggestions : List Suggestion) :
    entriesLines 1 suggestions ≠ ["  (none)"] := by
  intro h
  cases suggestions with
  | nil => cases h
  | cons s rest =>
      rw [entriesLines, entryLines, List.cons_append] at h
      have hchars := congrArg String.toList (List.cons.inj h).1
      have hone : Nat.toDigits 10 1 = ['1'] := rfl
      simp [heading, hone] at hchars

theorem suggestionLines_injective {a b : List Suggestion}
    (h : suggestionLines a = suggestionLines b) : a = b := by
  have hbody := (List.cons.inj h).2
  split at hbody
  · next ha =>
      split at hbody
      · next hb => rw [List.isEmpty_iff.mp ha, List.isEmpty_iff.mp hb]
      · exact absurd hbody.symm (entriesLines_ne_none b)
  · split at hbody
    · exact absurd hbody (entriesLines_ne_none a)
    · exact entriesLines_injective hbody

/-! ## Where an entry begins -/

/-- How many lines the entry of a suggestion has. -/
def Suggestion.lineCount (s : Suggestion) : Nat :=
  2 + (if s.description = "" then 0 else 1) + (if s.recommendation = "" then 0 else 1)

/-- How many lines the entries of some suggestions have. -/
def Suggestion.lineCounts : List Suggestion → Nat
  | [] => 0
  | s :: rest => s.lineCount + lineCounts rest

theorem length_markedLines (mark text : String) :
    (markedLines mark text).length = if text = "" then 0 else 1 := by
  rw [markedLines]
  split <;> rfl

theorem length_entryLines (number : Nat) (s : Suggestion) :
    (entryLines number s).length = s.lineCount := by
  simp only [entryLines, List.length_cons, List.length_append, length_markedLines, List.length_nil,
    Suggestion.lineCount]
  omega

/-- An entry begins behind the lines of those before it. -/
theorem getElem?_entriesLines {suggestions : List Suggestion} {k : Nat} {s : Suggestion}
    (h : suggestions[k]? = some s) (number : Nat) :
    (entriesLines number suggestions)[Suggestion.lineCounts (suggestions.take k)]?
      = some (heading (number + k) s) := by
  induction suggestions generalizing k number with
  | nil => cases h
  | cons t rest ih =>
      cases k with
      | zero =>
          cases h
          rfl
      | succ k =>
          have hrest : rest[k]? = some s := h
          rw [List.take_succ_cons, Suggestion.lineCounts, entriesLines,
            ← length_entryLines number t, List.getElem?_append_right (Nat.le_add_right _ _),
            Nat.add_sub_cancel_left, ih hrest (number + 1), Nat.add_assoc, Nat.add_comm 1 k]

/-- The line on which an entry begins is its heading. -/
theorem getElem?_suggestionLines {suggestions : List Suggestion} {k : Nat} {s : Suggestion}
    (h : suggestions[k]? = some s) :
    (suggestionLines suggestions)[1 + Suggestion.lineCounts (suggestions.take k)]?
      = some (heading (k + 1) s) := by
  have hsome : suggestions.isEmpty = false := by
    cases suggestions with
    | nil => cases h
    | cons _ _ => rfl
  rw [suggestionLines, hsome, Nat.add_comm 1, List.getElem?_cons_succ, Nat.add_comm k 1]
  exact getElem?_entriesLines h 1

/-- A list of suggestions whose texts do not break lines can be read back: its lines
are a title and then either a remark that there are none, or the entries; the
heading of each entry stands where the entries before it end and shows its number,
counted from one; and lists that are shown alike are the same, whichever texts are
empty and whatever the others look like. -/
theorem suggestionText_tells_suggestions :
    (∀ suggestions : List Suggestion, (∀ s ∈ suggestions, s.OneLine) →
      pieces '\n' (suggestionText suggestions).toList
          = (suggestionLines suggestions).map String.toList ++ [[]] ∧
        ∀ k s, suggestions[k]? = some s →
          (pieces '\n' (suggestionText suggestions).toList)[
              1 + Suggestion.lineCounts (suggestions.take k)]?
            = some (String.ofList (Nat.toDigits 10 (k + 1)) ++ ". [" ++ s.severity.name ++ "] "
                ++ s.title).toList) ∧
      ∀ a b : List Suggestion, (∀ s ∈ a, s.OneLine) → (∀ s ∈ b, s.OneLine) →
        suggestionText a = suggestionText b → a = b := by
  refine ⟨?_, ?_⟩
  · intro suggestions h
    have hpieces : pieces '\n' (suggestionText suggestions).toList
        = (suggestionLines suggestions).map String.toList ++ [[]] := by
      rw [suggestionText_eq_ended, pieces_ended (newline_not_mem_suggestionLines h)]
    refine ⟨hpieces, fun k s hk => ?_⟩
    have hline := getElem?_suggestionLines hk
    have hlt := (List.getElem?_eq_some_iff.mp hline).1
    rw [hpieces, List.getElem?_append_left (by rwa [List.length_map]), List.getElem?_map, hline,
      Option.map_some, heading]
  · intro a b ha hb h
    rw [suggestionText_eq_ended, suggestionText_eq_ended] at h
    exact suggestionLines_injective (ended_injective (newline_not_mem_suggestionLines ha)
      (newline_not_mem_suggestionLines hb) h)

/-- A text that looks like the line of another text, or like a heading, is not taken
for one. -/
theorem suggestionText_of_lookalikes :
    let a : List Suggestion := [⟨"t", "", "- x", .low⟩, ⟨"2. [High] u", "", "", .low⟩]
    let b : List Suggestion := [⟨"t", "x", "", .low⟩, ⟨"u", "", "", .high⟩]
    (∀ s ∈ a, s.OneLine) ∧ (∀ s ∈ b, s.OneLine) ∧ suggestionText a ≠ suggestionText b := by
  intro a b
  have ha : ∀ s ∈ a, s.OneLine := by
    rw [List.forall_mem_cons, List.forall_mem_singleton]
    exact ⟨⟨by decide, by decide, by decide⟩, ⟨by decide, by decide, by decide⟩⟩
  have hb : ∀ s ∈ b, s.OneLine := by
    rw [List.forall_mem_cons, List.forall_mem_singleton]
    exact ⟨⟨by decide, by decide, by decide⟩, ⟨by decide, by decide, by decide⟩⟩
  refine ⟨ha, hb, fun h => ?_⟩
  exact absurd (suggestionText_tells_suggestions.2 a b ha hb h) (by decide)

end QueryAdvisor
