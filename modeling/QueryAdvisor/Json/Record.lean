import QueryAdvisor.Json.Skip

/-!
# Reading records from JSON text

A record is written as an object, whose keys come in any order and may be
interleaved with unknown ones, or as the list of its fields in order. While
it is read, the values found so far are held in a *draft*; a `Slot` knows how
to put one field into the draft, and `build` makes the record once the text
has ended, or names the first required field that is missing.

Faults of the record as a whole are reported behind its closing bracket when
that is what comes next.
-/

namespace QueryAdvisor.Json

/-- Reads the scalar in front and reports that something else was expected. -/
def unexpected {α : Type} (expected : String) : Reader α := do
  match ← Reader.peekToken? with
  | none => Reader.failHere .endInValue
  | some 'n' => do
      Reader.advance
      Reader.restOfWord ['u', 'l', 'l']
      Reader.failHere (.wrongType .null expected)
  | some 't' => do
      Reader.advance
      Reader.restOfWord ['r', 'u', 'e']
      Reader.failHere (.wrongType (.bool true) expected)
  | some 'f' => do
      Reader.advance
      Reader.restOfWord ['a', 'l', 's', 'e']
      Reader.failHere (.wrongType (.bool false) expected)
  | some '-' => do
      Reader.advance
      let n ← numeral true
      Reader.failHere (.wrongType (.number n) expected)
  | some '"' => do
      let s ← literalText
      Reader.failHere (.wrongType (.text s) expected)
  | some '[' => Reader.failHere (.wrongType .list expected)
  | some '\x7b' => Reader.failHere (.wrongType .object expected)
  | some c =>
      if c.isDigit then do
        let n ← numeral false
        Reader.failHere (.wrongType (.number n) expected)
      else Reader.failNext .expectedValue

/-- A text value. -/
def text : Reader String := do
  match ← Reader.peekToken? with
  | some '"' => literalText
  | _ => unexpected "a string"

/-- Null, or a value. -/
def optional {α : Type} (reader : Reader α) : Reader (Option α) := do
  match ← Reader.peekToken? with
  | some 'n' => do Reader.advance; Reader.restOfWord ['u', 'l', 'l']; pure none
  | _ => some <$> reader

/-- The choice that a name stands for. -/
def named {α : Type} (choices : List (String × α)) (name : String) : Reader α :=
  match choices.find? (·.1 = name) with
  | some (_, choice) => pure choice
  | none => Reader.failHere (.unknownVariant name (choices.map Prod.fst))

/-- Null, and nothing else. -/
def unit : Reader Unit := do
  match ← Reader.peekToken? with
  | some 'n' => do Reader.advance; Reader.restOfWord ['u', 'l', 'l']
  | _ => unexpected "unit"

/-- The key of an object that has just been opened and cannot be empty. -/
def onlyKey : Reader String := do
  match ← Reader.peekToken? with
  | some '"' => literalText
  | some '\x7d' => Reader.failNext .expectedValue
  | some _ => Reader.failNext .keyNotText
  | none => Reader.failHere .endInObject

/-- One of a few names: as a text, or as the only key of an object that holds
null. -/
def variant {α : Type} (choices : List (String × α)) : Reader α := do
  match ← Reader.peekToken? with
  | none => Reader.failHere .endInValue
  | some '"' => do
      let name ← literalText
      named choices name
  | some '\x7b' => do
      Reader.advance
      let name ← onlyKey
      let choice ← named choices name
      colon
      unit
      match ← Reader.peekToken? with
      | some '\x7d' => do Reader.advance; pure choice
      | some _ => Reader.failHere .expectedValue
      | none => Reader.failHere .endInObject
  | some _ => Reader.failNext .expectedValue

/-- A list of values of one kind. -/
def listOf {α : Type} (bound : Nat) (item : Reader α) : Reader (List α) := do
  match ← Reader.peekToken? with
  | some '[' => do Reader.advance; itemsOf item bound []
  | _ => unexpected "a sequence"

/-- How one field of a record is read into a draft of the record. -/
structure Slot (δ : Type) where
  key : String
  /-- Whether the draft already has the field. -/
  filled : δ → Bool
  /-- Reads the field's value into the draft. -/
  read : δ → Reader δ
  /-- Whether a list of the record's fields may stop before this one. -/
  mayBeLeftOut : Bool

/-- How a record is read. -/
structure Shape (δ α : Type) where
  name : String
  slots : List (Slot δ)
  /-- The draft that has no field. -/
  start : δ
  /-- The record, or the first required field that the draft has not. -/
  build : δ → Except String α

/-- Reports a fault of a whole record: behind its closing bracket if that comes
next. -/
def failAtClose {α : Type} (closer : Char) (cause : Cause) : Reader α := do
  if (← Reader.peekToken?) = some closer then Reader.advance
  Reader.failHere cause

namespace Shape

variable {δ α : Type}

/-- Reads the fields of a record up to its closing brace. -/
def readFields (shape : Shape δ α) (total : Nat) : (bound : Nat) → (first : Bool) → δ → Reader δ
  | 0, _, _ => Reader.failHere .endInObject
  | bound + 1, first, draft => do
      if ← moreFields first then do
        let key ← literalText
        match shape.slots.find? (·.key = key) with
        | none => do
            colon
            skip total
            readFields shape total bound false draft
        | some slot =>
            if slot.filled draft then failAtClose '\x7d' (.duplicateField key)
            else do
              colon
              let draft ← slot.read draft
              readFields shape total bound false draft
      else pure draft

/-- The fault of a list that has too few of the record's fields. -/
def tooShort (shape : Shape δ α) (count : Nat) : Cause :=
  .wrongLength count
    ("struct " ++ shape.name ++ " with " ++ toString shape.slots.length ++ " elements")

/-- Reads the listed fields of a record up to its closing bracket. -/
def readItems (shape : Shape δ α) : (index : Nat) → List (Slot δ) → δ → Reader δ
  | _, [], draft => pure draft
  | index, slot :: rest, draft => do
      if ← moreItems (index == 0) then do
        let draft ← slot.read draft
        readItems shape (index + 1) rest draft
      else if slot.mayBeLeftOut then readItems shape (index + 1) rest draft
      else failAtClose ']' (shape.tooShort index)

/-- The record of a complete draft. -/
def complete (shape : Shape δ α) (closer : Char) (draft : δ) : Reader α :=
  match shape.build draft with
  | .ok record => pure record
  | .error key => failAtClose closer (.missingField key)

/-- The closing bracket of a record written as a list. -/
def closeItems : Reader Unit := do
  match ← Reader.peekToken? with
  | some ']' => Reader.advance
  | some ',' => do
      Reader.advance
      match ← Reader.peekToken? with
      | some ']' => Reader.failNext .trailingComma
      | _ => Reader.failNext .trailingCharacters
  | some _ => Reader.failNext .trailingCharacters
  | none => Reader.failHere .endInList

/-- Reads a record; `bound` is the length of the text. -/
def reader (shape : Shape δ α) (bound : Nat) : Reader α := do
  match ← Reader.peekToken? with
  | some '\x7b' => do
      Reader.advance
      let draft ← shape.readFields bound bound true shape.start
      let record ← shape.complete '\x7d' draft
      Reader.advance
      pure record
  | some '[' => do
      Reader.advance
      let draft ← shape.readItems 0 shape.slots shape.start
      let record ← shape.complete ']' draft
      closeItems
      pure record
  | _ => unexpected ("struct " ++ shape.name)

end Shape

end QueryAdvisor.Json
