import QueryAdvisor.Number.Layout
import QueryAdvisor.Tree.Basic

/-!
# Writing trees as JSON text

Two layouts of one format: `compact` without any white space, and `pretty`
with one field or item per line, indented by two spaces a level. An empty list
or object stays on its line in both. Texts escape the quote, the backslash and
the control characters below U+0020; everything else is written as it is.
-/

namespace QueryAdvisor.Json

/-- Doubles are written plainly from `1e-5` up to below `1e16`. -/
def numberLayout : Layout := ⟨-5, 16⟩

/-- The text of an integer. -/
def integerText (n : Int) : List Char :=
  if n < 0 then '-' :: Nat.toDigits 10 n.natAbs else Nat.toDigits 10 n.natAbs

def numeralText : Numeral → List Char
  | .integer n => integerText n
  | .float x => numberLayout.text x

/-- The hexadecimal digit of a value below sixteen. -/
def hexDigit (n : Nat) : Char :=
  Nat.digitChar n

/-- What a text literal writes for one character. -/
def escapedChar (c : Char) : List Char :=
  if c = '"' then ['\\', '"']
  else if c = '\\' then ['\\', '\\']
  else if c = '\n' then ['\\', 'n']
  else if c = '\r' then ['\\', 'r']
  else if c = '\t' then ['\\', 't']
  else if c.toNat = 0x08 then ['\\', 'b']
  else if c.toNat = 0x0c then ['\\', 'f']
  else if c.toNat < 0x20 then
    ['\\', 'u', '0', '0', hexDigit (c.toNat / 16), hexDigit (c.toNat % 16)]
  else [c]

/-- A text literal with its quotes. -/
def literal (s : String) : List Char :=
  '"' :: (s.toList.flatMap escapedChar ++ ['"'])

/-- The text of a scalar; lists and objects are handled by the layouts. -/
def boolText (b : Bool) : List Char :=
  if b then ['t', 'r', 'u', 'e'] else ['f', 'a', 'l', 's', 'e']

def nullText : List Char := ['n', 'u', 'l', 'l']

mutual

/-- The tree without white space. -/
def compact : Tree → List Char
  | .null => nullText
  | .bool b => boolText b
  | .number n => numeralText n
  | .text s => literal s
  | .list items => '[' :: (compactItems items ++ [']'])
  | .object fields => '\x7b' :: (compactFields fields ++ ['\x7d'])

/-- Items separated by commas. -/
def compactItems : List Tree → List Char
  | [] => []
  | [t] => compact t
  | t :: rest => compact t ++ ',' :: compactItems rest

/-- Fields separated by commas. -/
def compactFields : List (String × Tree) → List Char
  | [] => []
  | [(key, t)] => literal key ++ ':' :: compact t
  | (key, t) :: rest => literal key ++ ':' :: (compact t ++ ',' :: compactFields rest)

end

/-- A line break and the indentation of a level. -/
def newline (level : Nat) : List Char :=
  '\n' :: List.replicate (2 * level) ' '

mutual

/-- The tree with one field or item per line. -/
def pretty (level : Nat) : Tree → List Char
  | .null => nullText
  | .bool b => boolText b
  | .number n => numeralText n
  | .text s => literal s
  | .list [] => ['[', ']']
  | .list items => '[' :: (prettyItems (level + 1) items ++ newline level ++ [']'])
  | .object [] => ['\x7b', '\x7d']
  | .object fields => '\x7b' :: (prettyFields (level + 1) fields ++ newline level ++ ['\x7d'])

/-- Items, each on a line of its own. -/
def prettyItems (level : Nat) : List Tree → List Char
  | [] => []
  | [t] => newline level ++ pretty level t
  | t :: rest => newline level ++ pretty level t ++ ',' :: prettyItems level rest

/-- Fields, each on a line of its own. -/
def prettyFields (level : Nat) : List (String × Tree) → List Char
  | [] => []
  | [(key, t)] => newline level ++ literal key ++ [':', ' '] ++ pretty level t
  | (key, t) :: rest =>
      newline level ++ literal key ++ [':', ' '] ++ pretty level t ++ ',' :: prettyFields level rest

end

end QueryAdvisor.Json

namespace QueryAdvisor.Tree

/-- The JSON text of a tree without white space. -/
def toJson (t : Tree) : String :=
  String.ofList (Json.compact t)

/-- The JSON text of a tree with one field or item per line. -/
def toPrettyJson (t : Tree) : String :=
  String.ofList (Json.pretty 0 t)

end QueryAdvisor.Tree
