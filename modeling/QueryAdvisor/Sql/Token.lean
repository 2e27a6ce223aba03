/-!
# SQL tokens

A query text is a sequence of tokens. A word that is not quoted may be a
keyword; to tell, it is compared in upper case. The few letters outside ASCII
whose upper case is in ASCII count as that.
-/

namespace QueryAdvisor.Sql

/-- A token of a query text. -/
inductive Token where
  /-- A word as written, and in upper case. -/
  | word (text keyword : String)
  /-- A word between double quotes. -/
  | quotedWord (text : String)
  /-- A number, and whether it is marked as long. -/
  | number (digits : String) (long : Bool)
  | singleQuoted (text : String)
  | escaped (text : String)
  | national (text : String)
  | unicode (text : String)
  | hex (text : String)
  | dollarQuoted (tag text : String)
  | placeholder (text : String)
  /-- An operator or a punctuation mark. -/
  | symbol (text : String)
  /-- An operator made up of operator characters. -/
  | custom (text : String)
  /-- A character that starts no token. -/
  | stray (char : Char)
deriving DecidableEq, Repr

/-- A character in upper case, as far as keywords are concerned. -/
def keywordChar (c : Char) : List Char :=
  if c.toNat < 0x80 then [c.toUpper]
  else if c = 'ı' then ['I']
  else if c = 'ſ' then ['S']
  else if c = 'ß' then ['S', 'S']
  else if c = 'ﬀ' then ['F', 'F']
  else if c = 'ﬁ' then ['F', 'I']
  else if c = 'ﬂ' then ['F', 'L']
  else if c = 'ﬃ' then ['F', 'F', 'I']
  else if c = 'ﬄ' then ['F', 'F', 'L']
  else if c = 'ﬅ' then ['S', 'T']
  else if c = 'ﬆ' then ['S', 'T']
  else [c]

namespace Token

/-- A word that is not quoted. -/
def ofWord (text : List Char) : Token :=
  .word (String.ofList text) (String.ofList (text.flatMap keywordChar))

/-- Whether a token is a keyword. -/
def isKeyword (keyword : String) : Token → Bool
  | .word _ k => k == keyword
  | _ => false

def isSymbol (text : String) : Token → Bool
  | .symbol s => s == text
  | _ => false

/-- A token as it is shown. -/
def display : Token → String
  | .word text _ => text
  | .quotedWord text => "\"" ++ text ++ "\""
  | .number digits long => digits ++ (if long then "L" else "")
  | .singleQuoted text => "'" ++ text ++ "'"
  | .escaped text => "E'" ++ text ++ "'"
  | .national text => "N'" ++ text ++ "'"
  | .unicode text => "U&'" ++ text ++ "'"
  | .hex text => "X'" ++ text ++ "'"
  | .dollarQuoted tag text => "$" ++ tag ++ "$" ++ text ++ "$" ++ tag ++ "$"
  | .placeholder text => text
  | .symbol text => text
  | .custom text => text
  | .stray char => String.singleton char

end Token

end QueryAdvisor.Sql
