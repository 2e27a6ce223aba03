import QueryAdvisor.Proofs.RecordRead
import QueryAdvisor.Request.Basic

/-!
# Requests and their texts

A request may be written as an object, with its fields in any order among
unknown ones, or as a list of its fields. Every such text is read as the
request, and one of them is the text that the request is written as. So what
was read can be written again, and two texts say the same exactly when they are
written again alike.

That the order of an object's fields does not matter is shown as commutation.
One field changes the draft by a step of `Puts`; two steps can always change
places, since a step that would fill what is already filled does not exist.
-/

namespace QueryAdvisor

open Json

namespace Request

/-! ## The texts of the fields -/

/-- A text of a mode: its name, or an object that holds null under the name. -/
inductive SpellsMode (mode : Mode) : List Char → Prop where
  | name {v : List Char} (h : Literal mode.name v) : SpellsMode mode v
  | object {k a b c d : List Char} (hk : Literal mode.name k) (ha : Space a) (hb : Space b)
      (hc : Space c) (hd : Space d) :
      SpellsMode mode
        ('\x7b' :: (a ++ (k ++ (b ++ ':' :: (c ++ (nullText ++ (d ++ ['\x7d'])))))))

theorem SpellsMode.starts {mode : Mode} {v : List Char} (h : SpellsMode mode v) : Starts v := by
  cases h with
  | name h => exact (Spells.text h).starts
  | object => exact ⟨'\x7b', _, rfl, by decide, by decide⟩

theorem SpellsMode.takes {mode : Mode} {v : List Char} (h : SpellsMode mode v) :
    Takes (variant Mode.all) v (.ok mode) := by
  have hchoice : Mode.all.find? (·.1 = mode.name) = some (mode.name, mode) := by
    cases mode <;> rfl
  cases h with
  | name h => exact takes_variant hchoice h
  | object hk ha hb hc hd => exact takes_variant_object hchoice hk ha hb hc hd

/-- A text of a field that may hold null. -/
inductive SpellsOption : Option String → List Char → Prop where
  | null : SpellsOption none nullText
  | text {s : String} {v : List Char} (h : Literal s v) : SpellsOption (some s) v

theorem SpellsOption.starts {value : Option String} {v : List Char} (h : SpellsOption value v) :
    Starts v := by
  cases h with
  | null => exact Spells.null.starts
  | text h => exact (Spells.text h).starts

theorem SpellsOption.takes {value : Option String} {v : List Char} (h : SpellsOption value v) :
    Takes (Json.optional Json.text) v (.ok value) := by
  cases h with
  | null => exact takes_optional_null
  | text h =>
      obtain ⟨tail, htail⟩ := h.eq_cons
      exact takes_optional htail (by decide) (by decide) (takes_text h)

/-! ## Objects -/

def keys : List String :=
  ["mode", "connection_string", "query", "explain_json"]

/-- What one field of an object does to the draft. -/
inductive Puts : String × List Char → Draft → Draft → Prop where
  | mode {mode : Mode} {v : List Char} {c q e} (h : SpellsMode mode v) :
      Puts ("mode", v) ⟨none, c, q, e⟩ ⟨some mode, c, q, e⟩
  | connection {value : Option String} {v : List Char} {m q e} (h : SpellsOption value v) :
      Puts ("connection_string", v) ⟨m, none, q, e⟩ ⟨m, some value, q, e⟩
  | query {s : String} {v : List Char} {m c e} (h : Literal s v) :
      Puts ("query", v) ⟨m, c, none, e⟩ ⟨m, c, some s, e⟩
  | explainText {value : Option String} {v : List Char} {m c q} (h : SpellsOption value v) :
      Puts ("explain_json", v) ⟨m, c, q, none⟩ ⟨m, c, q, some value⟩
  | unknown {key : String} {t : Tree} {v : List Char} {d : Draft} (hkey : key ∉ keys)
      (h : Spells t v) : Puts (key, v) d d

theorem Puts.swap {field field' : String × List Char} {d between last : Draft}
    (h : Puts field d between) (h' : Puts field' between last) :
    ∃ between', Puts field' d between' ∧ Puts field between' last := by
  cases h with
  | unknown hkey ht => exact ⟨last, h', .unknown hkey ht⟩
  | mode h =>
      cases h' with
      | connection h' => exact ⟨_, .connection h', .mode h⟩
      | query h' => exact ⟨_, .query h', .mode h⟩
      | explainText h' => exact ⟨_, .explainText h', .mode h⟩
      | unknown hkey ht => exact ⟨_, .unknown hkey ht, .mode h⟩
  | connection h =>
      cases h' with
      | mode h' => exact ⟨_, .mode h', .connection h⟩
      | query h' => exact ⟨_, .query h', .connection h⟩
      | explainText h' => exact ⟨_, .explainText h', .connection h⟩
      | unknown hkey ht => exact ⟨_, .unknown hkey ht, .connection h⟩
  | query h =>
      cases h' with
      | mode h' => exact ⟨_, .mode h', .query h⟩
      | connection h' => exact ⟨_, .connection h', .query h⟩
      | explainText h' => exact ⟨_, .explainText h', .query h⟩
      | unknown hkey ht => exact ⟨_, .unknown hkey ht, .query h⟩
  | explainText h =>
      cases h' with
      | mode h' => exact ⟨_, .mode h', .explainText h⟩
      | connection h' => exact ⟨_, .connection h', .explainText h⟩
      | query h' => exact ⟨_, .query h', .explainText h⟩
      | unknown hkey ht => exact ⟨_, .unknown hkey ht, .explainText h⟩

theorem Puts.fills {field : String × List Char} {d d' : Draft} (h : Puts field d d') {total : Nat}
    (hlength : field.2.length ≤ total) {es : List (String × List Char)}
    {result : Except Cause Draft} (hrest : Shape.Fills shape total d' es result) :
    Shape.Fills shape total d (field :: es) result := by
  cases h with
  | mode h => exact .read rfl rfl (h.takes.bind_pure _) hrest
  | connection h => exact .read rfl rfl (h.takes.bind_pure _) hrest
  | query h => exact .read rfl rfl ((takes_text h).bind_pure _) hrest
  | explainText h => exact .read rfl rfl (h.takes.bind_pure _) hrest
  | @unknown key t v d hkey ht =>
      have hslot : shape.slots.find? (·.key = key) = none := by
        rw [List.find?_eq_none]
        intro slot hmem hkey'
        apply hkey
        rw [← of_decide_eq_true hkey']
        exact List.mem_map_of_mem (f := Slot.key) hmem
      have hsize : t.size ≤ total := Nat.le_trans ht.size_le hlength
      exact .skipped hslot (takes_skip ht hsize) hrest

/-- What the fields of an object do to the draft, one after the other. -/
inductive Collects : List (String × List Char) → Draft → Draft → Prop where
  | nil {d : Draft} : Collects [] d d
  | cons {field : String × List Char} {es : List (String × List Char)} {d d' last : Draft}
      (h : Puts field d d') (hes : Collects es d' last) : Collects (field :: es) d last

theorem Collects.append {es es' : List (String × List Char)} {d d' last : Draft}
    (h : Collects es d d') (h' : Collects es' d' last) : Collects (es ++ es') d last := by
  induction h with
  | nil => exact h'
  | cons hfield _ ih => exact .cons hfield (ih h')

theorem Collects.perm {es es' : List (String × List Char)} (horder : es.Perm es')
    {d last : Draft} (h : Collects es d last) : Collects es' d last := by
  induction horder generalizing d with
  | nil => exact h
  | cons field _ ih =>
      cases h with
      | cons hfield hes => exact .cons hfield (ih hes)
  | swap field field' es =>
      cases h with
      | cons hfirst h =>
          cases h with
          | cons hsecond hes =>
              obtain ⟨between, hsecond', hfirst'⟩ := hfirst.swap hsecond
              exact .cons hsecond' (.cons hfirst' hes)
  | trans _ _ ih ih' => exact ih' (ih h)

theorem Collects.fills {es : List (String × List Char)} {d last : Draft}
    (h : Collects es d last) {total : Nat} (hlength : ∀ field ∈ es, field.2.length ≤ total) :
    Shape.Fills shape total d es (.ok last) := by
  induction h with
  | nil => exact .done
  | cons hfield _ ih =>
      have hrest := ih fun field hmem => hlength field (List.mem_cons_of_mem _ hmem)
      exact hfield.fills (hlength _ List.mem_cons_self) hrest

/-- The entries of an optional field: one, or none when the value is absent. -/
inductive Given (key : String) : Option String → List (String × List Char) → Prop where
  | leftOut : Given key none []
  | given {value : Option String} {v : List Char} (h : SpellsOption value v) :
      Given key value [(key, v)]

/-- The entries of an object that holds a request: its fields in any order, among
unknown keys that may hold anything. -/
inductive Holds (r : Request) (es : List (String × List Char)) : Prop where
  | intro {mode query : List Char} {connection explain others : List (String × List Char)}
      (hmode : SpellsMode r.mode mode) (hquery : Literal r.query query)
      (hconnection : Given "connection_string" r.connection connection)
      (hexplain : Given "explain_json" r.explainText explain)
      (hothers : ∀ field ∈ others, field.1 ∉ keys ∧ ∃ t, Spells t field.2)
      (horder : es.Perm
        (("mode", mode) :: (connection ++ (("query", query) :: (explain ++ others)))))

theorem collects_unknown {others : List (String × List Char)}
    (h : ∀ field ∈ others, field.1 ∉ keys ∧ ∃ t, Spells t field.2) (d : Draft) :
    Collects others d d := by
  induction others with
  | nil => exact .nil
  | cons field others ih =>
      obtain ⟨hkey, t, ht⟩ := h field List.mem_cons_self
      exact .cons (.unknown hkey ht) (ih fun f hf => h f (List.mem_cons_of_mem _ hf))

theorem Holds.collects {r : Request} {es : List (String × List Char)} (h : Holds r es) :
    ∃ d, Collects es {} d ∧ d.build = .ok r := by
  obtain ⟨mode, connection, query, explainText⟩ := r
  obtain @⟨_, _, given, given', _, hmode, hquery, hgiven, hgiven', hothers, horder⟩ := h
  obtain ⟨c, rfl, hcollect⟩ : ∃ c, c.join = connection ∧
      ∀ m, Collects given ⟨m, none, none, none⟩ ⟨m, c, none, none⟩ := by
    cases hgiven with
    | leftOut => exact ⟨none, rfl, fun m => .nil⟩
    | given hv => exact ⟨some _, rfl, fun m => .cons (.connection hv) .nil⟩
  obtain ⟨e, rfl, hcollect'⟩ : ∃ e, e.join = explainText ∧
      ∀ m c q, Collects given' ⟨m, c, q, none⟩ ⟨m, c, q, e⟩ := by
    cases hgiven' with
    | leftOut => exact ⟨none, rfl, fun m c q => .nil⟩
    | given hv => exact ⟨some _, rfl, fun m c q => .cons (.explainText hv) .nil⟩
  refine ⟨⟨some mode, c, some query, e⟩, Collects.perm horder.symm ?_, rfl⟩
  refine .cons (.mode hmode) ((hcollect _).append (.cons (.query hquery) ?_))
  exact (hcollect' _ _ _).append (collects_unknown hothers _)

/-- A text that is an object holding a request. -/
def ObjectText (r : Request) (text : String) : Prop :=
  ∃ es cs before after, Holds r es ∧ Members true es cs ∧ Space before ∧ Space after ∧
    text.toList = before ++ ('\x7b' :: (cs ++ ['\x7d']) ++ after)

theorem ObjectText.ofJson {r : Request} {text : String} (h : ObjectText r text) :
    ofJson text = .ok r := by
  obtain ⟨es, cs, before, after, hholds, hcs, hbefore, hafter, htext⟩ := h
  obtain ⟨d, hcollects, hbuild⟩ := hholds.collects
  have hlengths := hcs.lengths_le
  have hbound : cs.length < roundBound text := by
    rw [roundBound, htext]
    simp only [List.length_append, List.length_cons]
    omega
  have hvalues : ∀ field ∈ es, field.2.length ≤ roundBound text := by
    intro field hmem
    have := length_le_lengths (List.mem_map_of_mem (f := Prod.snd) hmem)
    omega
  have hfields : es.length < roundBound text := by omega
  have htakes := Shape.takes_record (hcollects.fills hvalues) hbuild hcs hfields
  exact eq_ok_of_mapError (readAll_of_takes htakes hbefore hafter htext)

/-! ## Lists -/

/-- The values of a list that holds a request, whose last field may be left out
when it is absent. -/
inductive Listed (r : Request) : List (List Char) → Prop where
  | short {mode connection query : List Char} (hmode : SpellsMode r.mode mode)
      (hconnection : SpellsOption r.connection connection) (hquery : Literal r.query query)
      (habsent : r.explainText = none) : Listed r [mode, connection, query]
  | full {mode connection query explain : List Char} (hmode : SpellsMode r.mode mode)
      (hconnection : SpellsOption r.connection connection) (hquery : Literal r.query query)
      (hexplain : SpellsOption r.explainText explain) :
      Listed r [mode, connection, query, explain]

/-- A text that is a list holding a request. -/
def ListText (r : Request) (text : String) : Prop :=
  ∃ vs cs before after, Listed r vs ∧ Elements true vs cs ∧ Space before ∧ Space after ∧
    text.toList = before ++ ('[' :: (cs ++ [']']) ++ after)

theorem Listed.lists {r : Request} {vs : List (List Char)} (h : Listed r vs) :
    ∃ d, Shape.Lists shape.slots shape.start vs d ∧ d.build = .ok r := by
  cases h with
  | short hmode hconnection hquery habsent =>
      refine ⟨⟨some r.mode, some r.connection, some r.query, none⟩, ?_, ?_⟩
      · refine .read hmode.starts (hmode.takes.bind_pure _) ?_
        refine .read hconnection.starts (hconnection.takes.bind_pure _) ?_
        refine .read (Spells.text hquery).starts ((takes_text hquery).bind_pure _) (.done ?_)
        intro slot hslot
        rw [List.mem_singleton.mp hslot]
      · show Except.ok (Request.mk r.mode r.connection r.query none) = _
        rw [← habsent]
  | full hmode hconnection hquery hexplain =>
      refine ⟨⟨some r.mode, some r.connection, some r.query, some r.explainText⟩, ?_, rfl⟩
      refine .read hmode.starts (hmode.takes.bind_pure _) ?_
      refine .read hconnection.starts (hconnection.takes.bind_pure _) ?_
      refine .read (Spells.text hquery).starts ((takes_text hquery).bind_pure _) ?_
      exact .read hexplain.starts (hexplain.takes.bind_pure _) (.done nofun)

theorem ListText.ofJson {r : Request} {text : String} (h : ListText r text) :
    ofJson text = .ok r := by
  obtain ⟨vs, cs, before, after, hlisted, hcs, hbefore, hafter, htext⟩ := h
  obtain ⟨d, hlists, hbuild⟩ := hlisted.lists
  have htakes := Shape.takes_record_list hlists hbuild hcs (roundBound text)
  exact eq_ok_of_mapError (readAll_of_takes htakes hbefore hafter htext)

/-! ## Writing again -/

theorem holds_of_spellsFields {r : Request} {es : List (String × List Char)}
    (h : SpellsFields
      ([("mode", .text r.mode.name)] ++ optionalField "connection_string" r.connection
        ++ [("query", .text r.query)] ++ optionalField "explain_json" r.explainText) es) :
    Holds r es := by
  have hgiven : ∀ {key : String} {value : Option String} {rest : Fields}
      {es : List (String × List Char)}, SpellsFields (optionalField key value ++ rest) es →
      ∃ given es', es = given ++ es' ∧ Given key value given ∧ SpellsFields rest es' := by
    intro key value rest es h
    cases value with
    | none => exact ⟨[], es, rfl, .leftOut, h⟩
    | some s =>
        obtain ⟨v, es', rfl, hv, hes⟩ := h.cons_inv
        exact ⟨[(key, v)], es', rfl, .given (.text hv.text_inv), hes⟩
  simp only [List.append_assoc, List.cons_append, List.nil_append] at h
  obtain ⟨mode, es, rfl, hmode, hes⟩ := h.cons_inv
  obtain ⟨connection, es, rfl, hconnection, hes⟩ := hgiven hes
  obtain ⟨query, es, rfl, hquery, hes⟩ := hes.cons_inv
  rw [← List.append_nil (optionalField "explain_json" r.explainText)] at hes
  obtain ⟨explain, es, rfl, hexplain, hes⟩ := hgiven hes
  cases hes
  exact .intro (.name hmode.text_inv) hquery.text_inv hconnection hexplain
    (fun _ hmem => absurd hmem List.not_mem_nil) (.of_eq (by rw [List.append_nil]))

theorem exact_toTree (r : Request) : r.toTree.Exact := by
  obtain ⟨mode, connection, query, explainText⟩ := r
  cases connection with
  | none =>
      cases explainText with
      | none => exact ⟨show ["mode", "query"].Nodup by decide, trivial, trivial, trivial⟩
      | some _ =>
          exact ⟨show ["mode", "query", "explain_json"].Nodup by decide, trivial, trivial,
            trivial, trivial⟩
  | some _ =>
      cases explainText with
      | none =>
          exact ⟨show ["mode", "connection_string", "query"].Nodup by decide, trivial, trivial,
            trivial, trivial⟩
      | some _ => exact ⟨show keys.Nodup by decide, trivial, trivial, trivial, trivial, trivial⟩

/-- A request is written as one of the objects that hold it. -/
theorem objectText_toJson (r : Request) : ObjectText r r.toTree.toJson := by
  have hspells : Spells r.toTree (compact r.toTree) := spells_compact r.exact_toTree
  rw [ObjectText, Tree.toJson, String.toList_ofList]
  generalize compact r.toTree = v at hspells
  rw [toTree] at hspells
  cases hspells with
  | object hes hcs =>
      refine ⟨_, _, [], [], holds_of_spellsFields hes, hcs, space_nil, space_nil, ?_⟩
      rw [List.nil_append, List.append_nil]

/-- Every text of a request is read as the request, the one it is written as among
them. So two texts that are accepted, in whichever form, say the same exactly
when what was read of them is written alike. -/
theorem read_from_every_text :
    (∀ r : Request, ofJson r.toTree.toJson = .ok r) ∧
    (∀ (r : Request) (text : String), ObjectText r text ∨ ListText r text →
      ofJson text = .ok r) ∧
    ∀ (text text' : String) (r r' : Request), ofJson text = .ok r → ofJson text' = .ok r' →
      (r = r' ↔ r.toTree.toJson = r'.toTree.toJson) := by
  have hwritten : ∀ r : Request, ofJson r.toTree.toJson = .ok r :=
    fun r => r.objectText_toJson.ofJson
  refine ⟨hwritten, ?_, ?_⟩
  · rintro r text (h | h)
    · exact h.ofJson
    · exact h.ofJson
  · intro text text' r r' _ _
    constructor
    · rintro rfl
      rfl
    · intro h
      have hread := hwritten r
      rw [h, hwritten r'] at hread
      exact (Except.ok.inj hread).symm

/-- An object with its fields out of order, an escaped query, a null and an unknown
key says the same as a list that stops early; another query is written
differently. -/
theorem read_from_an_object_and_a_list :
    ofJson "\x7b\"n\":[null], \"query\":\"\\u0041\",\"explain_json\":null,\"mode\":\"manual\"\x7d"
        = .ok { query := "A" } ∧
      ofJson "[\x7b\"manual\":null\x7d,null,\"A\"]" = .ok { query := "A" } ∧
      (toTree { query := "A" }).toJson ≠ (toTree { query := "B" }).toJson := by
  have hescaped : Literal "A" ('"' :: (['\\', 'u', '0', '0', '4', '1'] ++ ['"'])) :=
    ⟨_, show Spelled ['A'] _ from .number (by decide) .nil, rfl⟩
  have hunknown : Spells (.list [.null]) ('[' :: ([] ++ (nullText ++ []) ++ [']'])) :=
    .list (.cons .null .nil) (.cons (.first space_nil) (.nil space_nil))
  have hothers : ∀ field ∈ [("n", '[' :: ([] ++ (nullText ++ []) ++ [']']))],
      field.1 ∉ keys ∧ ∃ t, Spells t field.2 := by
    intro field hfield
    rw [List.mem_singleton.mp hfield]
    exact ⟨by decide, _, hunknown⟩
  have hholds : Holds { query := "A" }
      [("n", '[' :: ([] ++ (nullText ++ []) ++ [']'])),
        ("query", '"' :: (['\\', 'u', '0', '0', '4', '1'] ++ ['"'])), ("explain_json", nullText),
        ("mode", literal "manual")] :=
    .intro (.name (literal_literal "manual")) hescaped .leftOut (.given .null) hothers (by decide)
  have hobject : ObjectText { query := "A" }
      "\x7b\"n\":[null], \"query\":\"\\u0041\",\"explain_json\":null,\"mode\":\"manual\"\x7d" :=
    ⟨_, _, [], [], hholds,
      .cons (.first space_nil) (literal_literal _) space_nil space_nil <|
      .cons (.comma space_nil space_blank) (literal_literal _) space_nil space_nil <|
      .cons (.comma space_nil space_nil) (literal_literal _) space_nil space_nil <|
      .cons (.comma space_nil space_nil) (literal_literal _) space_nil space_nil <|
      .nil space_nil,
      space_nil, space_nil, by decide⟩
  have hlisted : Listed { query := "A" } [_, nullText, literal "A"] :=
    .short (.object (literal_literal "manual") space_nil space_nil space_nil space_nil) .null
      (literal_literal "A") rfl
  have hlist : ListText { query := "A" } "[\x7b\"manual\":null\x7d,null,\"A\"]" :=
    ⟨_, _, [], [], hlisted,
      .cons (.first space_nil) <| .cons (.comma space_nil space_nil) <|
      .cons (.comma space_nil space_nil) <| .nil space_nil,
      space_nil, space_nil, by decide⟩
  obtain ⟨hwritten, hread, hagree⟩ := read_from_every_text
  refine ⟨hread _ _ (.inl hobject), hread _ _ (.inr hlist), ?_⟩
  intro h
  have heq := (hagree _ _ _ _ (hwritten _) (hwritten _)).mpr h
  exact absurd heq (by decide)

end Request

end QueryAdvisor
