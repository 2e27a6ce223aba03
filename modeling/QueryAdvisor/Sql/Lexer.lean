import QueryAdvisor.Sql.TextLiteral
import QueryAdvisor.Sql.Token
import QueryAdvisor.Text.Blank

/-!
# From text to tokens

Words start with a letter or an underscore and go on with letters, digits,
dollar signs and underscores. Operators are read by the longest spelling in
`operators`; most of them may be extended by further operator characters to a
custom operator. White space and comments separate tokens and are dropped;
comments between `/*` and `*/` nest.
-/

namespace QueryAdvisor.Sql

def isWordStart (c : Char) : Bool :=
  Text.isLetter c || c == '_'

def isWordPart (c : Char) : Bool :=
  Text.isLetter c || c.isDigit || c == '$' || c == '_'

/-- Characters that a custom operator may have. -/
def isOperatorPart (c : Char) : Bool :=
  "+-*/<>=~!@#%^&|`?".toList.contains c

/-- The spellings of operators and punctuation, longer ones first among those
that start alike, and whether a spelling may be extended. -/
def operators : List (String × Bool) :=
  [("(", false), (")", false), (",", false), (";", false), ("\\", false), ("[", false),
    ("]", false), ("\x7b", false), ("\x7d", false), ("+", false), ("*", false), ("/", false),
    ("->>", true), ("->", true), ("-", true), ("%", true), ("|/", true), ("||/", true),
    ("||", true), ("|", true), ("=>", false), ("==", false), ("=", false), ("!=", false),
    ("!!", false), ("!~~*", false), ("!~~", false), ("!~*", false), ("!~", false), ("!", false),
    ("<=>", true), ("<=", true), ("<>", true), ("<<", true), ("<@", true), ("<", true),
    (">=", true), (">>", true), (">", true), ("::", false), (":=", false), (":", false),
    ("&&", true), ("&", true), ("^@", false), ("^", false), ("~~*", true), ("~~", true),
    ("~*", true), ("~", true), ("#-", true), ("#>>", true), ("#>", true), ("#", true),
    ("@>", false), ("@?", false), ("@@", false), ("@", false), ("?|", false), ("?&", false)]

/-- A spelling in its usual form. -/
def usualSpelling (s : String) : String :=
  if s = "!=" then "<>" else s

/-- The operator in front, and what follows it. -/
def scanOperator (s : List Char) : Option (Token × List Char) := do
  let (spelling, extensible) ← operators.find? fun op => op.1.toList.isPrefixOf s
  let rest := s.drop spelling.length
  let extension := if extensible then rest.takeWhile isOperatorPart else []
  if extension.isEmpty then pure (.symbol (usualSpelling spelling), rest)
  else
    pure (.custom (String.ofList (spelling.toList ++ extension)), rest.drop extension.length)

/-- An exponent in front: its mark and digits, or nothing when no digit follows
the mark. -/
def exponentPart : List Char → List Char
  | e :: rest =>
      if e = 'e' || e = 'E' then
        let sign := rest.takeWhile fun c => c == '+' || c == '-'
        let sign := sign.take 1
        let digits := (rest.drop sign.length).takeWhile Char.isDigit
        if digits.isEmpty then [] else e :: sign ++ digits
      else []
  | [] => []

/-- The number in front, or a lone point. -/
def scanNumber (s : List Char) : Token × List Char :=
  let whole := s.takeWhile Char.isDigit
  let rest := s.drop whole.length
  match whole, rest with
  | ['0'], 'x' :: rest =>
      let digits := rest.takeWhile Text.isHexDigit
      (.hex (String.ofList digits), rest.drop digits.length)
  | _, _ =>
      let fraction := match rest with
        | '.' :: rest => '.' :: rest.takeWhile Char.isDigit
        | _ => []
      let mantissa := whole ++ fraction
      if mantissa = ['.'] then (.symbol ".", rest.drop 1)
      else
        let rest := rest.drop fraction.length
        let exponent := exponentPart rest
        let rest := rest.drop exponent.length
        let digits := String.ofList (mantissa ++ exponent)
        match rest with
        | 'L' :: rest => (.number digits true, rest)
        | _ => (.number digits false, rest)

/-- Skips a comment that nests, of which `depth` levels are open; the character
before counts. -/
def skipComment (depth : Nat) (before : Char) : List Char → Option (List Char)
  | [] => none
  | c :: rest =>
      if before = '/' && c = '*' then skipComment (depth + 1) c rest
      else if before = '*' && c = '/' then
        if depth ≤ 1 then some rest else skipComment (depth - 1) c rest
      else skipComment depth c rest

/-- A text behind a dollar sign, or a placeholder. -/
def scanDollar (s : List Char) : Option (Token × List Char) :=
  match s with
  | '$' :: rest => (dollarText [] rest).map fun (text, rest) => (.dollarQuoted "" text, rest)
  | _ =>
      let tag := s.takeWhile fun c => Text.isLetter c || Text.isNumber c || c == '_'
      match s.drop tag.length with
      | '$' :: rest =>
          (taggedText tag (rest.length + 1) [] rest).map fun (text, rest) =>
            (.dollarQuoted (String.ofList tag) text, rest)
      | rest => some (.placeholder (String.ofList ('$' :: tag)), rest)

/-- The word in front. -/
def scanWord (s : List Char) : Token × List Char :=
  (Token.ofWord (s.takeWhile isWordPart), s.dropWhile isWordPart)

/-- One token, or nothing for white space and comments, and what follows. -/
def scanToken : List Char → Option (Option Token × List Char)
  | [] => none
  | c :: rest =>
      if Text.isBlank c then some (none, rest)
      else
        match c, rest with
        | 'N', '\'' :: rest | 'n', '\'' :: rest =>
            (backslashed [] rest).map fun (text, rest) => (some (.national text), rest)
        | 'E', '\'' :: rest | 'e', '\'' :: rest =>
            (escapedText (rest.length + 1) [] rest).map fun (text, rest) =>
              (some (.escaped text), rest)
        | 'U', '&' :: '\'' :: rest | 'u', '&' :: '\'' :: rest =>
            (unicodeText (rest.length + 1) [] rest).map fun (text, rest) =>
              (some (.unicode text), rest)
        | 'X', '\'' :: rest | 'x', '\'' :: rest =>
            (backslashed [] rest).map fun (text, rest) => (some (.hex text), rest)
        | '\'', rest =>
            (delimited '\'' [] rest).map fun (text, rest) => (some (.singleQuoted text), rest)
        | '"', rest =>
            (delimited '"' [] rest).map fun (text, rest) => (some (.quotedWord text), rest)
        | '-', '-' :: rest => some (none, (rest.dropWhile (· != '\n')).drop 1)
        | '/', '*' :: rest => (skipComment 1 ' ' rest).map fun rest => (none, rest)
        | '$', rest => (scanDollar rest).map fun (token, rest) => (some token, rest)
        | c, rest =>
            if c.isDigit || c = '.' then
              let (token, rest) := scanNumber (c :: rest)
              some (some token, rest)
            else if isWordStart c then
              let (token, rest) := scanWord (c :: rest)
              some (some token, rest)
            else
              match scanOperator (c :: rest) with
              | some (token, rest) => some (some token, rest)
              | none =>
                  -- A lone question mark takes the next character along.
                  if c = '?' then some (some (.symbol "?"), rest.drop 1)
                  else some (some (.stray c), rest)

/-- All tokens of a text behind those already read (latest first). Every round
consumes a character, so `bound` is the length of the text. -/
def scanFrom : (bound : Nat) → (read : List Token) → List Char → Option (List Token)
  | _, read, [] => some read.reverse
  | 0, _, _ => none
  | bound + 1, read, c :: rest =>
      match scanToken (c :: rest) with
      | none => none
      | some (none, rest) => scanFrom bound read rest
      | some (some token, rest) => scanFrom bound (token :: read) rest

/-- The tokens of a text, unless a literal or a comment in it is not closed. -/
def tokens? (text : String) : Option (List Token) :=
  let chars := text.toList
  scanFrom chars.length [] chars

end QueryAdvisor.Sql
