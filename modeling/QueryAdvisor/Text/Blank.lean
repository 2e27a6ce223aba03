/-!
# Blank characters

A character is blank when it has the Unicode property `White_Space`. Trimming
removes blank characters from the ends of a text and nothing else; a text with
only blank characters is itself called blank. The zero-width space and the
byte-order mark are not blank.
-/

namespace QueryAdvisor.Text

/-- The code points with the property `White_Space`, as closed ranges. -/
def blankRanges : List (Nat × Nat) :=
  [(0x09, 0x0d), (0x20, 0x20), (0x85, 0x85), (0xa0, 0xa0), (0x1680, 0x1680), (0x2000, 0x200a),
    (0x2028, 0x2029), (0x202f, 0x202f), (0x205f, 0x205f), (0x3000, 0x3000)]

/-- Whether a table of closed ranges holds a code point. -/
def covers (ranges : List (Nat × Nat)) (n : Nat) : Bool :=
  ranges.any fun range => range.1 ≤ n && n ≤ range.2

/-- Whether a character counts as white space. -/
def isBlank (c : Char) : Bool :=
  covers blankRanges c.toNat

/-- Drops blank characters from the front. -/
def trimFront (s : List Char) : List Char :=
  s.dropWhile isBlank

/-- Drops blank characters from the back. -/
def trimBack (s : List Char) : List Char :=
  (s.reverse.dropWhile isBlank).reverse

/-- Drops blank characters from both ends. -/
def trim (s : List Char) : List Char :=
  trimBack (trimFront s)

/-- The text without the blank characters at its ends. -/
def trimmed (s : String) : String :=
  String.ofList (trim s.toList)

/-- The text without the blank characters at its end. -/
def trimmedBack (s : String) : String :=
  String.ofList (trimBack s.toList)

/-- Whether a text holds nothing but blank characters. -/
def isBlankText (s : String) : Bool :=
  s.toList.all isBlank

end QueryAdvisor.Text
