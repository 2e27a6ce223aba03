import QueryAdvisor.Json.Reader

/-!
# Skipping a value

A value under a key that nobody asked for is skipped: its brackets, commas,
colons and escapes must be in order, but numbers may be of any size, a
surrogate may stand alone, and any depth is accepted. The lists and objects
that are open are kept on a stack.
-/

namespace QueryAdvisor.Json

/-- What an open bracket belongs to. -/
inductive Enclosure where
  | list
  | object
deriving DecidableEq, Repr

namespace Enclosure

def closer : Enclosure → Char
  | .list => ']'
  | .object => '\x7d'

/-- The fault of a text that ends inside. -/
def atEnd : Enclosure → Cause
  | .list => .endInList
  | .object => .endInObject

/-- The fault of a value that is followed by neither a comma nor the closer. -/
def withoutComma : Enclosure → Cause
  | .list => .expectedCommaInList
  | .object => .expectedCommaInObject

end Enclosure

/-- Skips digits of which at least one is needed. -/
def skipExponent : Reader Unit := do
  Reader.advance
  let sign ← Reader.peek?
  if sign == some '+' || sign == some '-' then Reader.advance
  let digits ← Reader.digits
  if digits.isEmpty then Reader.failNext .invalidNumber

/-- Skips a number from its point on. -/
def skipFraction : Reader Unit := do
  Reader.advance
  let digits ← Reader.digits
  if digits.isEmpty then Reader.failNext .invalidNumber
  else
    match ← Reader.peek? with
    | some 'e' | some 'E' => skipExponent
    | _ => pure ()

/-- Skips a number whose minus sign, if any, has been consumed. -/
def skipNumber : Reader Unit := do
  let first ← Reader.peek?
  if first == some '0' then do
    Reader.advance
    match ← Reader.peek? with
    | some d => if d.isDigit then Reader.failNext .invalidNumber else continued
    | none => pure ()
  else do
    let digits ← Reader.digits
    if digits.isEmpty then Reader.failNext .invalidNumber else continued
where
  /-- What follows the digits in front of the point. -/
  continued : Reader Unit := do
    match ← Reader.peek? with
    | some '.' => skipFraction
    | some 'e' | some 'E' => skipExponent
    | _ => pure ()

/-- The rest of a text literal whose opening quote has been consumed. -/
def skipTextBody : List Char → Nat → Except Fault Cursor
  | [], offset => .error ⟨.endInText, offset⟩
  | '"' :: rest, offset => .ok ⟨rest, offset + 1⟩
  | '\\' :: 'u' :: a :: b :: c :: d :: rest, offset =>
      match hex4? a b c d with
      | none => .error (badHex (a :: b :: c :: d :: rest) (offset + 2))
      | some _ => skipTextBody rest (offset + 6)
  | '\\' :: 'u' :: rest, offset => .error (badHex rest (offset + 2))
  | ['\\'], offset => .error ⟨.endInText, offset + 1⟩
  | '\\' :: c :: rest, offset =>
      match shortEscape? c with
      | some _ => skipTextBody rest (offset + 2)
      | none => .error ⟨.invalidEscape, offset + 2⟩
  | c :: rest, offset =>
      if c.toNat < 0x20 then .error ⟨.controlCharacter, offset⟩
      else skipTextBody rest (offset + c.utf8Size)

/-- Skips a text literal whose opening quote is the next character. -/
def skipText : Reader Unit := fun cursor =>
  match skipTextBody (cursor.rest.drop 1) (cursor.offset + 1) with
  | .error fault => .error fault
  | .ok cursor => .ok ((), cursor)

/-- Skips what stands in front of the next value: nothing in a list, a key and a
colon in an object. -/
def skipKey : Enclosure → Reader Unit
  | .list => pure ()
  | .object => do
      match ← Reader.peekToken? with
      | some '"' => do skipText; colon
      | some _ => Reader.failNext .keyNotText
      | none => Reader.failHere .endInObject

/-- Goes on behind a complete value: closes what ends here and gives what is
still open in front of the next value, or nothing when all is closed. -/
def afterValue : List Enclosure → Reader (Option (List Enclosure))
  | [] => pure none
  | inner :: outer => do
      match ← Reader.peekToken? with
      | none => Reader.failHere inner.atEnd
      | some c =>
          if c = ',' then do Reader.advance; skipKey inner; pure (some (inner :: outer))
          else if c = inner.closer then do Reader.advance; afterValue outer
          else Reader.failNext inner.withoutComma

/-- Goes on behind an opening bracket. -/
def afterOpening (inner : Enclosure) (outer : List Enclosure) :
    Reader (Option (List Enclosure)) := do
  Reader.advance
  match ← Reader.peekToken? with
  | none => Reader.failHere inner.atEnd
  | some c =>
      if c = inner.closer then do Reader.advance; afterValue outer
      else do skipKey inner; pure (some (inner :: outer))

/-- Skips the start of a value, or all of it when it is a scalar. -/
def skipStart (outer : List Enclosure) : Reader (Option (List Enclosure)) := do
  match ← Reader.peekToken? with
  | none => Reader.failHere .endInValue
  | some 'n' => do Reader.advance; Reader.restOfWord ['u', 'l', 'l']; afterValue outer
  | some 't' => do Reader.advance; Reader.restOfWord ['r', 'u', 'e']; afterValue outer
  | some 'f' => do Reader.advance; Reader.restOfWord ['a', 'l', 's', 'e']; afterValue outer
  | some '-' => do Reader.advance; skipNumber; afterValue outer
  | some '"' => do skipText; afterValue outer
  | some '[' => afterOpening .list outer
  | some '\x7b' => afterOpening .object outer
  | some c => if c.isDigit then do skipNumber; afterValue outer else Reader.failNext .expectedValue

/-- Skips values until all that is open is closed. Every round consumes a
character, so `bound` is the length of the text. -/
def skipWithin : (bound : Nat) → List Enclosure → Reader Unit
  | 0, _ => Reader.failHere .endInValue
  | bound + 1, enclosing => do
      match ← skipStart enclosing with
      | none => pure ()
      | some enclosing => skipWithin bound enclosing

/-- Skips one value. -/
def skip (bound : Nat) : Reader Unit :=
  skipWithin bound []

end QueryAdvisor.Json
