import QueryAdvisor.Text.Blank
import QueryAdvisor.Text.LetterTable

/-!
# Letters and numbers

`isLetter` is the Unicode property `Alphabetic` and `isNumber` the union of the
three number categories. ASCII is decided first, so the tables are consulted
only for characters outside it.
-/

namespace QueryAdvisor.Text

/-- Whether a character is alphabetic in any script. -/
def isLetter (c : Char) : Bool :=
  c.isAlpha || (0x80 ≤ c.toNat && covers letterRanges c.toNat)

/-- Whether a character is a number of any script. -/
def isNumber (c : Char) : Bool :=
  c.isDigit || (0x80 ≤ c.toNat && covers numberRanges c.toNat)

/-- Whether a character is one of `0` to `9`, `a` to `f` or `A` to `F`. -/
def isHexDigit (c : Char) : Bool :=
  c.isDigit || ('a' ≤ c && c ≤ 'f') || ('A' ≤ c && c ≤ 'F')

/-- The value of a hexadecimal digit; other characters have none. -/
def hexValue? (c : Char) : Option Nat :=
  if c.isDigit then some (c.toNat - '0'.toNat)
  else if 'a' ≤ c && c ≤ 'f' then some (c.toNat - 'a'.toNat + 10)
  else if 'A' ≤ c && c ≤ 'F' then some (c.toNat - 'A'.toNat + 10)
  else none

/-- The value of a run of decimal digits read from the left. -/
def decimalValue (digits : List Char) : Nat :=
  digits.foldl (fun n c => 10 * n + (c.toNat - '0'.toNat)) 0

/-- Reads a number written with decimal digits only, at least one of them. -/
def natural? (s : List Char) : Option Nat :=
  if s.isEmpty || !s.all Char.isDigit then none else some (decimalValue s)

end QueryAdvisor.Text
