import QueryAdvisor.Json.Cursor
import QueryAdvisor.Number.Power
import QueryAdvisor.Text.Letter

/-!
# Reading trees from JSON text

`Tree.ofJson` reads one value and nothing after it. A key that occurs twice in
an object keeps its first place and its last value. Lists and objects nest at
most 127 levels deep.

An integer that fits in 64 bits, signed or unsigned, stays an integer; minus
zero and every other number becomes a double.
-/

namespace QueryAdvisor.Json

/-! ## Numbers -/

/-- The numbers that fit in 64 bits are below this. -/
def wordBound : Nat := twoTo 64

/-- Exponents are counted up to here; beyond it their exact size no longer
matters. -/
def exponentBound : Nat := twoTo 31

/-- Appends digits to a significand as long as it fits in 64 bits. Gives the
significand and how many digits were left over. -/
def absorb (significand : Nat) : List Char → Nat × Nat
  | [] => (significand, 0)
  | d :: rest =>
      let next := 10 * significand + (d.toNat - '0'.toNat)
      if wordBound ≤ next then (significand, (d :: rest).length) else absorb next rest

/-- The double of a decimal, or a fault behind it when it is out of range. -/
def scaled (negative : Bool) (significand : Nat) (exponent : Int) : Reader Numeral :=
  match Binary64.ofDecimal negative significand exponent with
  | some x => pure (.float x)
  | none => Reader.failHere .numberOutOfRange

/-- Consumes exponent digits up to and including the one that takes the exponent
to the bound; none is the answer when that happens. -/
def exponentDigits (exponent : Nat) : List Char → Nat → Option Nat × Cursor
  | [], offset => (some exponent, ⟨[], offset⟩)
  | c :: rest, offset =>
      if c.isDigit then
        let next := 10 * exponent + (c.toNat - '0'.toNat)
        if exponentBound ≤ next then (none, ⟨rest, offset + 1⟩)
        else exponentDigits next rest (offset + 1)
      else (some exponent, ⟨c :: rest, offset⟩)

/-- The part of a number from its exponent mark on. -/
def withExponent (negative : Bool) (significand : Nat) (exponent : Int) : Reader Numeral := do
  Reader.advance
  let sign ← Reader.peek?
  if sign == some '+' || sign == some '-' then Reader.advance
  match ← Reader.peek? with
  | none => Reader.failHere .endInValue
  | some c =>
      if !c.isDigit then Reader.failNext .invalidNumber
      else
        let cursor ← get
        let (size, cursor) := exponentDigits 0 cursor.rest cursor.offset
        set cursor
        match size with
        | some size =>
            if sign == some '-' then scaled negative significand (exponent - size)
            else scaled negative significand (exponent + size)
        | none =>
            if significand != 0 && sign != some '-' then Reader.failHere .numberOutOfRange
            else do
              let _ ← Reader.digits
              pure (.float (Binary64.zero negative))

/-- The part of a number from its point on. -/
def withFraction (negative : Bool) (significand : Nat) (exponent : Int) : Reader Numeral := do
  Reader.advance
  let digits ← Reader.digits
  if digits.isEmpty then
    match ← Reader.peek? with
    | none => Reader.failHere .endInValue
    | some _ => Reader.failNext .invalidNumber
  else
    let (significand, left) := absorb significand digits
    let exponent := exponent - ((digits.length - left : Nat) : Int)
    match ← Reader.peek? with
    | some 'e' | some 'E' => withExponent negative significand exponent
    | _ => scaled negative significand exponent

/-- A whole number that fits in 64 bits with its sign, or else a double. -/
def whole (negative : Bool) (significand : Nat) : Numeral :=
  if !negative then .integer significand
  else if significand != 0 && significand ≤ twoTo 63 then .integer (-(significand : Int))
  else match Binary64.nearest true significand 1 with
    | some x => .float x
    | none => .float (Binary64.zero true)

/-- A number whose minus sign, if any, has been consumed. -/
def numeral (negative : Bool) : Reader Numeral := do
  match ← Reader.peek? with
  | none => Reader.failHere .endInValue
  | some c =>
      if !c.isDigit then Reader.failNext .invalidNumber
      else if c = '0' then
        Reader.advance
        match ← Reader.peek? with
        | some d => if d.isDigit then Reader.failNext .invalidNumber else continued 0 0
        | none => continued 0 0
      else do
        let digits ← Reader.digits
        let (significand, left) := absorb 0 digits
        continued significand left
where
  /-- What follows the digits in front of the point. -/
  continued (significand left : Nat) : Reader Numeral := do
    match ← Reader.peek? with
    | some '.' => withFraction negative significand left
    | some 'e' | some 'E' => withExponent negative significand left
    | _ => if left == 0 then pure (whole negative significand) else scaled negative significand left

/-! ## Texts -/

/-- The bytes of a list of characters. -/
def byteCount : List Char → Nat
  | [] => 0
  | c :: rest => c.utf8Size + byteCount rest

/-- The fault of an escape by number that has no four digits: the text ends
within the four bytes, or one of them is not a digit. -/
def badHex (rest : List Char) (offset : Nat) : Fault :=
  if byteCount (rest.take 4) < 4 then ⟨.endInText, offset + byteCount (rest.take 4)⟩
  else ⟨.invalidEscape, offset + 4⟩

/-- The value of four hexadecimal digits. -/
def hex4? (a b c d : Char) : Option Nat := do
  let a ← Text.hexValue? a
  let b ← Text.hexValue? b
  let c ← Text.hexValue? c
  let d ← Text.hexValue? d
  pure (((a * 16 + b) * 16 + c) * 16 + d)

def isLeadingSurrogate (n : Nat) : Bool := 0xd800 ≤ n && n ≤ 0xdbff

def isTrailingSurrogate (n : Nat) : Bool := 0xdc00 ≤ n && n ≤ 0xdfff

/-- The code point of a surrogate pair. -/
def pairValue (leading trailing : Nat) : Nat :=
  (leading - 0xd800) * 0x400 + (trailing - 0xdc00) + 0x10000

/-- What the letter of a short escape stands for. -/
def shortEscape? (c : Char) : Option Char :=
  if c = '"' then some '"'
  else if c = '\\' then some '\\'
  else if c = '/' then some '/'
  else if c = 'b' then some (Char.ofNat 0x08)
  else if c = 'f' then some (Char.ofNat 0x0c)
  else if c = 'n' then some '\n'
  else if c = 'r' then some '\r'
  else if c = 't' then some '\t'
  else none

/-- The rest of a text literal whose opening quote has been consumed: its
characters behind those already collected (latest first). -/
def textBody (collected : List Char) : List Char → Nat → Except Fault (List Char × Cursor)
  | [], offset => .error ⟨.endInText, offset⟩
  | '"' :: rest, offset => .ok (collected.reverse, ⟨rest, offset + 1⟩)
  | '\\' :: 'u' :: a :: b :: c :: d :: rest, offset =>
      match hex4? a b c d with
      | none => .error (badHex (a :: b :: c :: d :: rest) (offset + 2))
      | some n =>
          if isTrailingSurrogate n then .error ⟨.loneSurrogate, offset + 6⟩
          else if isLeadingSurrogate n then
            match rest with
            | '\\' :: 'u' :: e :: f :: g :: h :: rest =>
                match hex4? e f g h with
                | none => .error (badHex (e :: f :: g :: h :: rest) (offset + 8))
                | some m =>
                    if isTrailingSurrogate m then
                      textBody (Char.ofNat (pairValue n m) :: collected) rest (offset + 12)
                    else .error ⟨.loneSurrogate, offset + 12⟩
            | '\\' :: 'u' :: rest => .error (badHex rest (offset + 8))
            | ['\\'] => .error ⟨.endInText, offset + 7⟩
            | '\\' :: _ :: _ => .error ⟨.cutSurrogate, offset + 8⟩
            | _ :: _ => .error ⟨.cutSurrogate, offset + 7⟩
            | [] => .error ⟨.endInText, offset + 6⟩
          else textBody (Char.ofNat n :: collected) rest (offset + 6)
  | '\\' :: 'u' :: rest, offset => .error (badHex rest (offset + 2))
  | ['\\'], offset => .error ⟨.endInText, offset + 1⟩
  | '\\' :: c :: rest, offset =>
      match shortEscape? c with
      | some e => textBody (e :: collected) rest (offset + 2)
      | none => .error ⟨.invalidEscape, offset + 2⟩
  | c :: rest, offset =>
      if c.toNat < 0x20 then .error ⟨.controlCharacter, offset + 1⟩
      else textBody (c :: collected) rest (offset + c.utf8Size)

/-- A text literal whose opening quote is the next character. -/
def literalText : Reader String := fun cursor =>
  match textBody [] (cursor.rest.drop 1) (cursor.offset + 1) with
  | .error fault => .error fault
  | .ok (s, cursor) => .ok (String.ofList s, cursor)

/-! ## Lists and objects -/

/-- Whether a list has a further item in front. -/
def moreItems (first : Bool) : Reader Bool := do
  match ← Reader.peekToken? with
  | none => Reader.failHere .endInList
  | some ']' => pure false
  | some c =>
      if first then pure true
      else if c = ',' then do
        Reader.advance
        match ← Reader.peekToken? with
        | some ']' => Reader.failNext .trailingComma
        | some _ => pure true
        | none => Reader.failHere .endInValue
      else Reader.failNext .expectedCommaInList

/-- Whether an object has a further key in front. -/
def moreFields (first : Bool) : Reader Bool := do
  match ← Reader.peekToken? with
  | none => Reader.failHere .endInObject
  | some '\x7d' => pure false
  | some c =>
      if first then (if c = '"' then pure true else Reader.failNext .keyNotText)
      else if c = ',' then do
        Reader.advance
        match ← Reader.peekToken? with
        | some '"' => pure true
        | some '\x7d' => Reader.failNext .trailingComma
        | some _ => Reader.failNext .keyNotText
        | none => Reader.failHere .endInValue
      else Reader.failNext .expectedCommaInObject

/-- The colon between a key and its value. -/
def colon : Reader Unit := do
  match ← Reader.peekToken? with
  | some ':' => Reader.advance
  | some _ => Reader.failNext .expectedColon
  | none => Reader.failHere .endInObject

/-- The items up to the closing bracket, which is consumed, behind those already
read (latest first). Every round consumes a character, so `bound` is the length
of the text. -/
def itemsOf {α : Type} (item : Reader α) : (bound : Nat) → (read : List α) → Reader (List α)
  | 0, _ => Reader.failHere .endInList
  | bound + 1, read => do
      if ← moreItems read.isEmpty then do
        let a ← item
        itemsOf item bound (a :: read)
      else do
        Reader.advance
        pure read.reverse

/-- The fields up to the closing brace, which is consumed, behind those already
read. -/
def fields (value : Reader Tree) : (bound : Nat) → (first : Bool) → Fields → Reader Fields
  | 0, _, _ => Reader.failHere .endInObject
  | bound + 1, first, read => do
      if ← moreFields first then do
        let key ← literalText
        colon
        let t ← value
        fields value bound false (read.put key t)
      else do
        Reader.advance
        pure read

/-- A value whose items and fields are read by `nested`; without it no list and
no object may be opened. -/
def valueWith (bound : Nat) (nested : Option (Reader Tree)) : Reader Tree := do
  match ← Reader.peekToken? with
  | none => Reader.failHere .endInValue
  | some 'n' => do Reader.advance; Reader.restOfWord ['u', 'l', 'l']; pure .null
  | some 't' => do Reader.advance; Reader.restOfWord ['r', 'u', 'e']; pure (.bool true)
  | some 'f' => do Reader.advance; Reader.restOfWord ['a', 'l', 's', 'e']; pure (.bool false)
  | some '-' => do Reader.advance; pure (.number (← numeral true))
  | some '"' => do pure (.text (← literalText))
  | some '[' =>
      match nested with
      | none => Reader.failNext .tooDeep
      | some nested => do Reader.advance; pure (.list (← itemsOf nested bound []))
  | some '\x7b' =>
      match nested with
      | none => Reader.failNext .tooDeep
      | some nested => do Reader.advance; pure (.object (← fields nested bound true []))
  | some c =>
      if c.isDigit then do pure (.number (← numeral false)) else Reader.failNext .expectedValue

/-- A value that may open `depth` levels of lists and objects; `bound` is the
length of the text. -/
def value (bound : Nat) : (depth : Nat) → Reader Tree
  | 0 => valueWith bound none
  | depth + 1 => valueWith bound (some (value bound depth))

/-- Nothing but white space may follow. -/
def finish : Reader Unit := do
  match ← Reader.peekToken? with
  | none => pure ()
  | some _ => Reader.failNext .trailingCharacters

/-- How many levels of lists and objects a text may open. -/
def maxDepth : Nat := 127

/-- Runs a reader over a whole text. -/
def readAll {α : Type} (reader : Reader α) (text : String) : Except Fault α := do
  let (a, cursor) ← reader (Cursor.start text)
  let _ ← finish cursor
  pure a

/-- A bound for the rounds of any loop over a text. -/
def roundBound (text : String) : Nat :=
  text.toList.length + 1

end QueryAdvisor.Json

namespace QueryAdvisor.Tree

/-- Reads a tree that may open a given number of levels. -/
def ofJsonWithin (depth : Nat) (text : String) : Except Json.Fault Tree :=
  Json.readAll (Json.value (Json.roundBound text) depth) text

/-- Reads a tree from its JSON text. -/
def ofJson (text : String) : Except Json.Fault Tree :=
  ofJsonWithin Json.maxDepth text

end QueryAdvisor.Tree
