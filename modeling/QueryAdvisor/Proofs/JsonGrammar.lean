import QueryAdvisor.Json.Reader
import QueryAdvisor.Tree.Walk

/-!
# The texts that a tree may be written as

A tree has many JSON texts: white space may stand around every value, every
key and every colon, and a character of a text literal may be written as it
is, by a letter behind a backslash, or by its number. `Spells` relates a tree
to all of them. It is built in three layers that know nothing of each other:
how a text literal is spelled, how the parts of a list or an object are put
between their brackets whatever the parts are, and which part stands for
which tree.

One thing is left open on purpose. A number text stands for one particular
double, and which one is a matter of rounding; here any number text spells
any double. Integers are spelled in one way only.

At the end both layouts of the printer are shown to be spellings.
-/

namespace QueryAdvisor

namespace Tree

mutual

/-- A tree that a text tells exactly: integers of 64 bits, no doubles, and no key
twice in an object. -/
def Exact : Tree → Prop
  | .number (.integer n) => -(twoTo 63 : Int) ≤ n ∧ n < (twoTo 64 : Int)
  | .number (.float _) => False
  | .list items => ExactItems items
  | .object fields => (Fields.keys fields).Nodup ∧ ExactFields fields
  | _ => True

def ExactItems : List Tree → Prop
  | [] => True
  | t :: rest => Exact t ∧ ExactItems rest

def ExactFields : List (String × Tree) → Prop
  | [] => True
  | (_, t) :: rest => Exact t ∧ ExactFields rest

end

end Tree

namespace Json

/-- White space between the parts of a text, any amount of it. -/
def Space (s : List Char) : Prop :=
  ∀ c ∈ s, isSpace c = true

theorem space_nil : Space [] := nofun

theorem space_newline (level : Nat) : Space (newline level) := by
  intro c hc
  rw [newline, List.mem_cons] at hc
  rcases hc with rfl | hc
  · rfl
  · rw [List.eq_of_mem_replicate hc]
    rfl

theorem space_blank : Space [' '] := by
  intro c hc
  rw [List.mem_singleton.mp hc]
  rfl

/-! ## Text literals -/

/-- The letters that may follow a backslash, and what they stand for. -/
def shortEscapes : List (Char × Char) :=
  [('"', '"'), ('\\', '\\'), ('/', '/'), ('b', Char.ofNat 0x08), ('f', Char.ofNat 0x0c),
    ('n', '\n'), ('r', '\r'), ('t', '\t')]

/-- How the characters of a text are spelled between the quotes. A number
escape holds one character, or one half of a surrogate pair. -/
inductive Spelled : List Char → List Char → Prop where
  | nil : Spelled [] []
  | plain {c : Char} {s cs : List Char} (hquote : c ≠ '"') (hslash : c ≠ '\\')
      (hcontrol : 0x20 ≤ c.toNat) (h : Spelled s cs) : Spelled (c :: s) (c :: cs)
  | short {c letter : Char} {s cs : List Char} (hletter : (letter, c) ∈ shortEscapes)
      (h : Spelled s cs) : Spelled (c :: s) ('\\' :: letter :: cs)
  | number {c x₁ x₂ x₃ x₄ : Char} {s cs : List Char} (hc : hex4? x₁ x₂ x₃ x₄ = some c.toNat)
      (h : Spelled s cs) : Spelled (c :: s) ('\\' :: 'u' :: x₁ :: x₂ :: x₃ :: x₄ :: cs)
  | pair {c x₁ x₂ x₃ x₄ y₁ y₂ y₃ y₄ : Char} {n m : Nat} {s cs : List Char}
      (hn : hex4? x₁ x₂ x₃ x₄ = some n) (hm : hex4? y₁ y₂ y₃ y₄ = some m)
      (hleading : isLeadingSurrogate n = true) (htrailing : isTrailingSurrogate m = true)
      (hc : c.toNat = pairValue n m) (h : Spelled s cs) :
      Spelled (c :: s)
        ('\\' :: 'u' :: x₁ :: x₂ :: x₃ :: x₄ :: '\\' :: 'u' :: y₁ :: y₂ :: y₃ :: y₄ :: cs)

/-- A text literal with its quotes. -/
def Literal (s : String) (cs : List Char) : Prop :=
  ∃ body, Spelled s.toList body ∧ cs = '"' :: (body ++ ['"'])

theorem Literal.eq_cons {s : String} {cs : List Char} (h : Literal s cs) :
    ∃ tail, cs = '"' :: tail := by
  obtain ⟨body, -, rfl⟩ := h
  exact ⟨_, rfl⟩

/-! ## Numbers -/

/-- At least one digit. -/
def Digits (ds : List Char) : Prop :=
  ds ≠ [] ∧ ∀ c ∈ ds, c.isDigit = true

/-- The digits in front of the point: zero stands alone. -/
def WholePart (ds : List Char) : Prop :=
  Digits ds ∧ (ds.head? = some '0' → ds = ['0'])

inductive FractionPart : List Char → Prop where
  | absent : FractionPart []
  | present {ds : List Char} (h : Digits ds) : FractionPart ('.' :: ds)

inductive ExponentPart : List Char → Prop where
  | absent : ExponentPart []
  | present {mark : Char} {sign ds : List Char} (hmark : mark = 'e' ∨ mark = 'E')
      (hsign : sign = [] ∨ sign = ['+'] ∨ sign = ['-']) (h : Digits ds) :
      ExponentPart (mark :: (sign ++ ds))

inductive NumberText : List Char → Prop where
  | positive {w f e : List Char} (hw : WholePart w) (hf : FractionPart f) (he : ExponentPart e) :
      NumberText (w ++ (f ++ e))
  | negative {w f e : List Char} (hw : WholePart w) (hf : FractionPart f) (he : ExponentPart e) :
      NumberText ('-' :: (w ++ (f ++ e)))

theorem digits_toDigits (n : Nat) : Digits (Nat.toDigits 10 n) := by
  refine ⟨Nat.toDigits_ne_nil, fun c hc => ?_⟩
  exact Nat.isDigit_of_mem_toDigits (by decide) (by decide) hc

theorem digitChar_ne_zero : ∀ n < 10, n ≠ 0 → Nat.digitChar n ≠ '0' := by decide

/-- Only zero starts with the digit zero. -/
theorem head?_toDigits {n : Nat} (hn : n ≠ 0) : (Nat.toDigits 10 n).head? ≠ some '0' := by
  induction n using Nat.strongRecOn with
  | ind n ih =>
      by_cases hlt : n < 10
      · rw [Nat.toDigits_of_lt_base hlt, List.head?_cons]
        intro h
        exact digitChar_ne_zero n hlt hn (Option.some.inj h)
      · have hq : n / 10 ≠ 0 := by omega
        have hhead := ih (n / 10) (by omega) hq
        obtain ⟨c, cs, hcs⟩ := List.exists_cons_of_ne_nil (digits_toDigits (n / 10)).1
        rw [Nat.toDigits_of_base_le (by decide) (by omega), hcs]
        rwa [hcs] at hhead

theorem wholePart_toDigits (n : Nat) : WholePart (Nat.toDigits 10 n) := by
  refine ⟨digits_toDigits n, fun h => ?_⟩
  by_cases hn : n = 0
  · subst hn
    rfl
  · exact absurd h (head?_toDigits hn)

theorem numberText_integerText (n : Int) : NumberText (integerText n) := by
  have hwhole := wholePart_toDigits n.natAbs
  rw [integerText]
  split
  · have := NumberText.negative hwhole .absent .absent
    rwa [List.append_nil, List.append_nil] at this
  · have := NumberText.positive hwhole .absent .absent
    rwa [List.append_nil, List.append_nil] at this

/-! ## Lists and objects -/

/-- What stands in front of a part: white space, and a comma unless the part is
the first. -/
inductive Lead : Bool → List Char → Prop where
  | first {a : List Char} (ha : Space a) : Lead true a
  | comma {a b : List Char} (ha : Space a) (hb : Space b) : Lead false (a ++ ',' :: b)

/-- The texts of some items, one after the other, up to the closing bracket. -/
inductive Elements : Bool → List (List Char) → List Char → Prop where
  | nil {first : Bool} {a : List Char} (ha : Space a) : Elements first [] a
  | cons {first : Bool} {l v cs : List Char} {vs : List (List Char)} (hl : Lead first l)
      (h : Elements false vs cs) : Elements first (v :: vs) (l ++ (v ++ cs))

/-- Some keys with the texts of their values, up to the closing brace. -/
inductive Members : Bool → List (String × List Char) → List Char → Prop where
  | nil {first : Bool} {a : List Char} (ha : Space a) : Members first [] a
  | cons {first : Bool} {l k a b v cs : List Char} {key : String}
      {es : List (String × List Char)} (hl : Lead first l) (hk : Literal key k) (ha : Space a)
      (hb : Space b) (h : Members false es cs) :
      Members first ((key, v) :: es) (l ++ (k ++ (a ++ ':' :: (b ++ (v ++ cs)))))

mutual

/-- A text of a tree, without white space around it. -/
inductive Spells : Tree → List Char → Prop where
  | null : Spells .null nullText
  | bool {b : Bool} : Spells (.bool b) (boolText b)
  | integer {n : Int} : Spells (.number (.integer n)) (integerText n)
  | float {x : Binary64} {cs : List Char} (h : NumberText cs) : Spells (.number (.float x)) cs
  | text {s : String} {cs : List Char} (h : Literal s cs) : Spells (.text s) cs
  | list {items : List Tree} {vs : List (List Char)} {cs : List Char}
      (hvs : SpellsItems items vs) (hcs : Elements true vs cs) :
      Spells (.list items) ('[' :: (cs ++ [']']))
  | object {fields : Fields} {es : List (String × List Char)} {cs : List Char}
      (hes : SpellsFields fields es) (hcs : Members true es cs) :
      Spells (.object fields) ('\x7b' :: (cs ++ ['\x7d']))

inductive SpellsItems : List Tree → List (List Char) → Prop where
  | nil : SpellsItems [] []
  | cons {t : Tree} {rest : List Tree} {v : List Char} {vs : List (List Char)}
      (ht : Spells t v) (h : SpellsItems rest vs) : SpellsItems (t :: rest) (v :: vs)

inductive SpellsFields : List (String × Tree) → List (String × List Char) → Prop where
  | nil : SpellsFields [] []
  | cons {key : String} {t : Tree} {rest : List (String × Tree)} {v : List Char}
      {es : List (String × List Char)} (ht : Spells t v) (h : SpellsFields rest es) :
      SpellsFields ((key, t) :: rest) ((key, v) :: es)

end

/-- A text of an object whose fields are known, field by field. -/
theorem SpellsFields.cons_inv {key : String} {t : Tree} {rest : Fields}
    {es : List (String × List Char)} (h : SpellsFields ((key, t) :: rest) es) :
    ∃ v es', es = (key, v) :: es' ∧ Spells t v ∧ SpellsFields rest es' := by
  cases h with
  | cons ht h => exact ⟨_, _, rfl, ht, h⟩

theorem Spells.text_inv {s : String} {v : List Char} (h : Spells (.text s) v) :
    Literal s v := by
  cases h with
  | text h => exact h

/-! ## How long a text is at least

Every node of a tree takes a character of its own, so a loop that takes a step
for each node never takes more steps than the text has characters. -/

theorem Literal.length_pos {s : String} {cs : List Char} (h : Literal s cs) : 0 < cs.length := by
  obtain ⟨tail, rfl⟩ := h.eq_cons
  exact Nat.succ_pos _

theorem Digits.length_pos {ds : List Char} (h : Digits ds) : 0 < ds.length :=
  List.length_pos_iff.mpr h.1

theorem NumberText.length_pos {cs : List Char} (h : NumberText cs) : 0 < cs.length := by
  cases h with
  | positive hw _ _ =>
      have := hw.1.length_pos
      simp only [List.length_append]
      omega
  | negative _ _ _ => exact Nat.succ_pos _

/-- The characters of some texts together. -/
def lengths : List (List Char) → Nat
  | [] => 0
  | v :: vs => v.length + lengths vs

theorem Elements.lengths_le {first : Bool} {vs : List (List Char)} {cs : List Char}
    (h : Elements first vs cs) : lengths vs ≤ cs.length := by
  induction h with
  | nil _ => exact Nat.zero_le _
  | cons _ _ ih =>
      simp only [lengths, List.length_append]
      omega

theorem Members.lengths_le {first : Bool} {es : List (String × List Char)} {cs : List Char}
    (h : Members first es cs) : lengths (es.map Prod.snd) + es.length ≤ cs.length := by
  induction h with
  | nil _ => exact Nat.zero_le _
  | cons _ hk _ _ _ ih =>
      simp only [lengths, List.map_cons, List.length_append, List.length_cons] at ih ⊢
      omega

theorem length_le_lengths {v : List Char} {vs : List (List Char)} (h : v ∈ vs) :
    v.length ≤ lengths vs := by
  induction vs with
  | nil => cases h
  | cons x xs ih =>
      rw [lengths]
      rcases List.mem_cons.mp h with rfl | hmem
      · omega
      · have := ih hmem; omega

mutual

theorem Spells.size_le {t : Tree} {cs : List Char} : Spells t cs → t.size ≤ cs.length
  | .null => by decide
  | .bool => by
      simp only [Tree.size, boolText]
      split <;> decide
  | .integer => by
      simp only [Tree.size]
      exact (numberText_integerText _).length_pos
  | .float h => by
      simp only [Tree.size]
      exact h.length_pos
  | .text h => by
      simp only [Tree.size]
      exact h.length_pos
  | .list hvs hcs => by
      have := hvs.sizeItems_le
      have := hcs.lengths_le
      simp only [Tree.size, List.length_cons, List.length_append]
      omega
  | .object hes hcs => by
      have := hes.sizeFields_le
      have := hcs.lengths_le
      simp only [Tree.size, List.length_cons, List.length_append]
      omega

theorem SpellsItems.sizeItems_le {ts : List Tree} {vs : List (List Char)} :
    SpellsItems ts vs → Tree.sizeItems ts ≤ lengths vs
  | .nil => by simp only [Tree.sizeItems, Nat.zero_le]
  | .cons ht h => by
      have := ht.size_le
      have := h.sizeItems_le
      simp only [Tree.sizeItems, lengths]
      omega

theorem SpellsFields.sizeFields_le {fs : List (String × Tree)} {es : List (String × List Char)} :
    SpellsFields fs es → Tree.sizeFields fs ≤ lengths (es.map Prod.snd)
  | .nil => by simp only [Tree.sizeFields, Nat.zero_le]
  | .cons ht h => by
      have := ht.size_le
      have := h.sizeFields_le
      simp only [Tree.sizeFields, List.map_cons, lengths]
      omega

end

/-! ## What the printer writes -/

theorem hex4?_control : ∀ n < 0x20,
    hex4? '0' '0' (hexDigit (n / 16)) (hexDigit (n % 16)) = some n := by decide

theorem Spelled.escapedChar (c : Char) {s cs : List Char} (h : Spelled s cs) :
    Spelled (c :: s) (escapedChar c ++ cs) := by
  -- a character that has a letter of its own is told by its number
  have hletter : ∀ {letter d : Char}, c.toNat = d.toNat → (letter, d) ∈ shortEscapes →
      Spelled (c :: s) ('\\' :: letter :: cs) := by
    intro letter d hcd hd
    rw [Char.toNat_inj.mp hcd]
    exact .short hd h
  unfold Json.escapedChar
  split
  · next hc => exact hletter (congrArg Char.toNat hc) (by decide)
  · next hquote =>
      split
      · next hc => exact hletter (congrArg Char.toNat hc) (by decide)
      · next hslash =>
          split
          · next hc => exact hletter (congrArg Char.toNat hc) (by decide)
          · split
            · next hc => exact hletter (congrArg Char.toNat hc) (by decide)
            · split
              · next hc => exact hletter (congrArg Char.toNat hc) (by decide)
              · split
                · next hc => exact hletter (d := Char.ofNat 0x08) hc (by decide)
                · split
                  · next hc => exact hletter (d := Char.ofNat 0x0c) hc (by decide)
                  · split
                    · next hc => exact .number (hex4?_control _ hc) h
                    · next hc => exact .plain hquote hslash (Nat.le_of_not_lt hc) h

theorem spelled_flatMap (s : List Char) : Spelled s (s.flatMap escapedChar) := by
  induction s with
  | nil => exact .nil
  | cons c rest ih =>
      rw [List.flatMap_cons]
      exact ih.escapedChar c

theorem literal_literal (s : String) : Literal s (literal s) :=
  ⟨_, spelled_flatMap s.toList, rfl⟩

/-- Behind a comma the first part is any other part. -/
theorem Elements.behind_comma {v : List Char} {vs : List (List Char)} {cs : List Char}
    (h : Elements true (v :: vs) cs) : Elements false (v :: vs) (',' :: cs) := by
  cases h with
  | cons hl h =>
      cases hl with
      | first ha => exact .cons (.comma space_nil ha) h

theorem Members.behind_comma {e : String × List Char} {es : List (String × List Char)}
    {cs : List Char} (h : Members true (e :: es) cs) : Members false (e :: es) (',' :: cs) := by
  cases h with
  | cons hl hk ha hb h =>
      cases hl with
      | first hs => exact .cons (.comma space_nil hs) hk ha hb h

theorem elements_compactItems (items : List Tree) :
    Elements true (items.map compact) (compactItems items) := by
  induction items with
  | nil => exact .nil space_nil
  | cons t rest ih =>
      cases rest with
      | nil =>
          have := Elements.cons (v := compact t) (.first space_nil) (.nil space_nil)
          simpa [compactItems] using this
      | cons t' rest' => exact .cons (.first space_nil) ih.behind_comma

theorem members_compactFields (fields : Fields) :
    Members true (fields.map fun f => (f.1, compact f.2)) (compactFields fields) := by
  induction fields with
  | nil => exact .nil space_nil
  | cons f rest ih =>
      obtain ⟨key, t⟩ := f
      cases rest with
      | nil =>
          have := Members.cons (v := compact t) (.first space_nil) (literal_literal key) space_nil
            space_nil (.nil space_nil)
          simpa [compactFields] using this
      | cons f' rest' =>
          exact .cons (.first space_nil) (literal_literal key) space_nil space_nil ih.behind_comma

/-- The line break in front of the closing bracket is the white space behind the
last item. -/
theorem elements_prettyItems (level : Nat) (items : List Tree) {tail : List Char}
    (htail : Space tail) :
    Elements true (items.map (pretty level)) (prettyItems level items ++ tail) := by
  induction items with
  | nil => exact .nil htail
  | cons t rest ih =>
      cases rest with
      | nil =>
          have := Elements.cons (v := pretty level t) (.first (space_newline level)) (.nil htail)
          simpa [prettyItems] using this
      | cons t' rest' =>
          have := Elements.cons (v := pretty level t) (.first (space_newline level))
            ih.behind_comma
          simpa [prettyItems] using this

theorem members_prettyFields (level : Nat) (fields : Fields) {tail : List Char}
    (htail : Space tail) :
    Members true (fields.map fun f => (f.1, pretty level f.2))
      (prettyFields level fields ++ tail) := by
  induction fields with
  | nil => exact .nil htail
  | cons f rest ih =>
      obtain ⟨key, t⟩ := f
      cases rest with
      | nil =>
          have := Members.cons (v := pretty level t) (.first (space_newline level))
            (literal_literal key) space_nil space_blank (.nil htail)
          simpa [prettyFields] using this
      | cons f' rest' =>
          have := Members.cons (v := pretty level t) (.first (space_newline level))
            (literal_literal key) space_nil space_blank ih.behind_comma
          simpa [prettyFields] using this

mutual

theorem spells_compact : {t : Tree} → t.Exact → Spells t (compact t)
  | .null, _ => .null
  | .bool _, _ => .bool
  | .number (.integer _), _ => .integer
  | .number (.float _), h => h.elim
  | .text s, _ => .text (literal_literal s)
  | .list items, h => .list (spellsItems_compact h) (elements_compactItems items)
  | .object fields, h => .object (spellsFields_compact h.2) (members_compactFields fields)

theorem spellsItems_compact : {items : List Tree} → Tree.ExactItems items →
    SpellsItems items (items.map compact)
  | [], _ => .nil
  | _ :: _, h => .cons (spells_compact h.1) (spellsItems_compact h.2)

theorem spellsFields_compact : {fields : List (String × Tree)} → Tree.ExactFields fields →
    SpellsFields fields (fields.map fun f => (f.1, compact f.2))
  | [], _ => .nil
  | _ :: _, h => .cons (spells_compact h.1) (spellsFields_compact h.2)

end

mutual

theorem spells_pretty (level : Nat) : {t : Tree} → t.Exact → Spells t (pretty level t)
  | .null, _ => .null
  | .bool _, _ => .bool
  | .number (.integer _), _ => .integer
  | .number (.float _), h => h.elim
  | .text s, _ => .text (literal_literal s)
  | .list [], _ => .list .nil (.nil space_nil)
  | .list (t :: rest), h =>
      .list (spellsItems_pretty (level + 1) h)
        (elements_prettyItems (level + 1) (t :: rest) (space_newline level))
  | .object [], _ => .object .nil (.nil space_nil)
  | .object (f :: rest), h =>
      .object (spellsFields_pretty (level + 1) h.2)
        (members_prettyFields (level + 1) (f :: rest) (space_newline level))

theorem spellsItems_pretty (level : Nat) : {items : List Tree} → Tree.ExactItems items →
    SpellsItems items (items.map (pretty level))
  | [], _ => .nil
  | _ :: _, h => .cons (spells_pretty level h.1) (spellsItems_pretty level h.2)

theorem spellsFields_pretty (level : Nat) : {fields : List (String × Tree)} →
    Tree.ExactFields fields → SpellsFields fields (fields.map fun f => (f.1, pretty level f.2))
  | [], _ => .nil
  | _ :: _, h => .cons (spells_pretty level h.1) (spellsFields_pretty level h.2)

end

end Json

end QueryAdvisor
