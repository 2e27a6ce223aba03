import QueryAdvisor.Text.Blank
import QueryAdvisor.Text.UnprintableTable

/-!
# Quoted labels

A label that comes from outside is shown between double quotes. The quote, the
backslash, tab, carriage return, newline and NUL are written with a backslash;
any other character that a reader could not see, or that would combine with
its neighbour, is written by its number in braces.
-/

namespace QueryAdvisor.Text

/-- Whether a quoted label shows a character as it is. -/
def isPrintable (c : Char) : Bool :=
  if c.toNat < 0x7f then 0x20 ≤ c.toNat else !covers unprintableRanges c.toNat

/-- The text of a number in base sixteen, in small letters and without
padding. -/
def hexDigits (n : Nat) : List Char :=
  Nat.toDigits 16 n

/-- What a quoted label writes for one character. -/
def quotedChar (c : Char) : List Char :=
  if c = '"' then ['\\', '"']
  else if c = '\\' then ['\\', '\\']
  else if c = '\t' then ['\\', 't']
  else if c = '\r' then ['\\', 'r']
  else if c = '\n' then ['\\', 'n']
  else if c.toNat = 0 then ['\\', '0']
  else if isPrintable c then [c]
  else ['\\', 'u', '\x7b'] ++ hexDigits c.toNat ++ ['\x7d']

/-- The label of a text, quotes included. -/
def quoted (s : String) : String :=
  String.ofList ('"' :: (s.toList.flatMap quotedChar ++ ['"']))

end QueryAdvisor.Text
