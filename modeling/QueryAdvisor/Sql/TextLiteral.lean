import QueryAdvisor.Text.Letter

/-!
# Text literals

The ways to write a text in a query. Each function reads the part behind the
opening quote and gives the text and what follows the closing one, or nothing
when the literal is not closed or holds a bad escape.
-/

namespace QueryAdvisor.Sql

/-- A text and what follows it. -/
abbrev Scanned := Option (String × List Char)

/-- The end of a literal: what was collected, latest first. -/
def scanned (collected rest : List Char) : Scanned :=
  some (String.ofList collected.reverse, rest)

/-- A text up to a quote; a doubled quote stands for itself. -/
def delimited (quote : Char) (collected : List Char) : List Char → Scanned
  | [] => none
  | [c] => if c = quote then scanned collected [] else none
  | c :: d :: rest =>
      if c = quote then
        if d = quote then delimited quote (quote :: collected) rest
        else scanned collected (d :: rest)
      else delimited quote (c :: collected) (d :: rest)

/-- What a letter behind a backslash stands for in a national or hexadecimal
literal. -/
def simpleEscape (c : Char) : Char :=
  if c = '0' then Char.ofNat 0
  else if c = 'a' then Char.ofNat 7
  else if c = 'b' then Char.ofNat 8
  else if c = 'f' then Char.ofNat 12
  else if c = 'n' then '\n'
  else if c = 'r' then '\r'
  else if c = 't' then '\t'
  else if c = 'Z' then Char.ofNat 0x1a
  else c

/-- A text up to a quote, with backslash escapes. -/
def backslashed (collected : List Char) : List Char → Scanned
  | [] => none
  | '\'' :: '\'' :: rest => backslashed ('\'' :: collected) rest
  | '\'' :: rest => scanned collected rest
  | '\\' :: c :: rest => backslashed (simpleEscape c :: collected) rest
  | ['\\'] => none
  | c :: rest => backslashed (c :: collected) rest

/-- The value of digits in a base. -/
def digitsValue (base : Nat) (digits : List Char) : Option Nat :=
  digits.foldlM (fun n c => (Text.hexValue? c).map (base * n + ·)) 0

/-- The character with a code point, if there is one. -/
def charOfCode? (n : Nat) : Option Char :=
  if n < 0xd800 || (0xdfff < n && n < 0x110000) then some (Char.ofNat n) else none

/-- The character that some hexadecimal digits name; a plus sign may lead. -/
def charOfHex? (digits : List Char) : Option Char :=
  let digits := match digits with
    | '+' :: d :: rest => d :: rest
    | _ => digits
  (digitsValue 16 digits).bind charOfCode?

/-- The character of a byte that is in ASCII; higher bits are dropped. -/
def charOfByte? (n : Nat) : Option Char :=
  if n % 256 ≤ 127 then some (Char.ofNat (n % 256)) else none

def isOctalDigit (c : Char) : Bool :=
  '0' ≤ c && c ≤ '7'

/-- Up to `limit` characters of a class from the front. -/
def takeUpTo (limit : Nat) (p : Char → Bool) (s : List Char) : List Char :=
  (s.take limit).takeWhile p

/-- What a backslash and the character behind it stand for in an escaped literal,
and what follows. -/
def escape? (c : Char) (rest : List Char) : Option (Char × List Char) := do
  let (char, rest) ←
    if c = 'b' then some (Char.ofNat 8, rest)
    else if c = 'f' then some (Char.ofNat 12, rest)
    else if c = 'n' then some ('\n', rest)
    else if c = 'r' then some ('\r', rest)
    else if c = 't' then some ('\t', rest)
    else if c = 'u' then numbered 4
    else if c = 'U' then numbered 8
    else if c = 'x' then
      let digits := takeUpTo 2 Text.isHexDigit rest
      if digits.isEmpty then some ('x', rest)
      else ((digitsValue 16 digits).bind charOfByte?).map (·, rest.drop digits.length)
    else if isOctalDigit c then
      let digits := takeUpTo 2 isOctalDigit rest
      ((digitsValue 8 (c :: digits)).bind charOfByte?).map (·, rest.drop digits.length)
    else some (c, rest)
  if char = Char.ofNat 0 then none else some (char, rest)
where
  /-- An escape by a number of so many digits. -/
  numbered (count : Nat) : Option (Char × List Char) :=
    if rest.length < count then none
    else (charOfHex? (rest.take count)).map (·, rest.drop count)

/-- A text up to a quote, with the escapes of an escaped literal. Every round
consumes a character, so `bound` is the length of the text. -/
def escapedText : (bound : Nat) → (collected : List Char) → List Char → Scanned
  | 0, _, _ => none
  | _, _, [] => none
  | bound + 1, collected, '\'' :: '\'' :: rest => escapedText bound ('\'' :: collected) rest
  | _ + 1, collected, '\'' :: rest => scanned collected rest
  | bound + 1, collected, '\\' :: c :: rest =>
      match escape? c rest with
      | none => none
      | some (char, rest) => escapedText bound (char :: collected) rest
  | _ + 1, _, ['\\'] => none
  | bound + 1, collected, c :: rest => escapedText bound (c :: collected) rest

/-- The character that exactly so many hexadecimal digits name, and what follows. -/
def hexChar? (count : Nat) (s : List Char) : Option (Char × List Char) :=
  if s.length < count then none
  else ((digitsValue 16 (s.take count)).bind charOfCode?).map (·, s.drop count)

/-- A text up to a quote, with characters given by their code points. -/
def unicodeText : (bound : Nat) → (collected : List Char) → List Char → Scanned
  | 0, _, _ => none
  | _, _, [] => none
  | bound + 1, collected, '\'' :: '\'' :: rest => unicodeText bound ('\'' :: collected) rest
  | _ + 1, collected, '\'' :: rest => scanned collected rest
  | bound + 1, collected, '\\' :: '\\' :: rest => unicodeText bound ('\\' :: collected) rest
  | bound + 1, collected, '\\' :: '+' :: rest =>
      match hexChar? 6 rest with
      | none => none
      | some (char, rest) => unicodeText bound (char :: collected) rest
  | bound + 1, collected, '\\' :: rest =>
      match hexChar? 4 rest with
      | none => none
      | some (char, rest) => unicodeText bound (char :: collected) rest
  | bound + 1, collected, c :: rest => unicodeText bound (c :: collected) rest

/-- A text up to two dollar signs. -/
def dollarText (collected : List Char) : List Char → Scanned
  | [] => none
  | '$' :: '$' :: rest => scanned collected rest
  | ['$'] => none
  | '$' :: c :: rest => dollarText (c :: '$' :: collected) rest
  | c :: rest => dollarText (c :: collected) rest

/-- Compares what follows a dollar sign with a tag: nothing when the text ends
first, else what was consumed, what follows, and whether all of it matched. -/
def matchTag : (tag : List Char) → List Char → Option (List Char × List Char × Bool)
  | [], rest => some ([], rest, true)
  | _ :: _, [] => none
  | t :: tag, c :: rest =>
      if c = t then (matchTag tag rest).map fun (taken, rest, ok) => (c :: taken, rest, ok)
      else some ([c], rest, false)

/-- A text up to a tag between dollar signs. -/
def taggedText (tag : List Char) : (bound : Nat) → (collected : List Char) → List Char → Scanned
  | 0, _, _ => none
  | bound + 1, collected, s =>
      let plain := s.takeWhile (· != '$')
      let collected := plain.reverse ++ collected
      match s.dropWhile (· != '$') with
      | [] => none
      | _ :: rest =>
          match matchTag tag rest with
          | none => none
          | some (taken, rest, ok) =>
              let kept := taken.reverse ++ '$' :: collected
              if ok then
                match rest with
                | '$' :: rest => scanned collected rest
                | _ => taggedText tag bound kept rest
              else taggedText tag bound kept rest

end QueryAdvisor.Sql
