import QueryAdvisor.Json.Fault

/-!
# Reading from the front of a text

A reader consumes characters from the front of the text and knows how many
bytes it has consumed. It stops at the first fault.
-/

namespace QueryAdvisor.Json

/-- What is left of a text, and the bytes already consumed. -/
structure Cursor where
  rest : List Char
  offset : Nat

/-- Reads a value from the front of a text, or stops with a fault. -/
abbrev Reader := StateT Cursor (Except Fault)

/-- The cursor at the front of a text. -/
def Cursor.start (text : String) : Cursor :=
  ⟨text.toList, 0⟩

/-- The offset behind the next byte, or the end of the text. -/
def Cursor.behindNext (cursor : Cursor) : Nat :=
  if cursor.rest.isEmpty then cursor.offset else cursor.offset + 1

/-- White space between the parts of a JSON text. -/
def isSpace (c : Char) : Bool :=
  c == ' ' || c == '\t' || c == '\n' || c == '\r'

/-- The cursor behind any white space. -/
def Cursor.skipSpace (cursor : Cursor) : Cursor :=
  ⟨cursor.rest.dropWhile isSpace, cursor.offset + (cursor.rest.takeWhile isSpace).length⟩

namespace Reader

/-- Reports a fault behind what has been consumed. -/
def failHere {α : Type} (cause : Cause) : Reader α := fun cursor =>
  .error ⟨cause, cursor.offset⟩

/-- Reports a fault behind the next byte. -/
def failNext {α : Type} (cause : Cause) : Reader α := fun cursor =>
  .error ⟨cause, cursor.behindNext⟩

/-- Consumes the next character, if there is one. -/
def advance : Reader Unit := fun cursor =>
  match cursor.rest with
  | [] => .ok ((), cursor)
  | c :: rest => .ok ((), ⟨rest, cursor.offset + c.utf8Size⟩)

/-- The next character, not consumed. -/
def peek? : Reader (Option Char) := fun cursor =>
  .ok (cursor.rest.head?, cursor)

/-- The next character behind any white space, which is consumed. -/
def peekToken? : Reader (Option Char) := fun cursor =>
  let cursor := cursor.skipSpace
  .ok (cursor.rest.head?, cursor)

/-- Consumes the decimal digits in front. -/
def digits : Reader (List Char) := fun cursor =>
  let taken := cursor.rest.takeWhile Char.isDigit
  .ok (taken, ⟨cursor.rest.dropWhile Char.isDigit, cursor.offset + taken.length⟩)

/-- Consumes the rest of a word whose first letter has been read. -/
def restOfWord : List Char → Reader Unit
  | [] => pure ()
  | expected :: more => do
      match ← peek? with
      | none => failHere .endInValue
      | some c => if c = expected then do advance; restOfWord more else failNext .expectedWord

end Reader

end QueryAdvisor.Json
