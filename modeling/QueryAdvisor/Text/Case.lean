import QueryAdvisor.Text.Blank
import QueryAdvisor.Text.CaseTable

/-!
# Lower-casing

A text is lowered character by character. Two mappings stand outside the
table: the dotted capital I lowers to two code points, and a capital sigma
lowers to the final form at the end of a word and to the ordinary form
elsewhere. A sigma ends a word when the nearest character before it that is
not case-ignorable is cased, and the nearest one after it is not.
-/

namespace QueryAdvisor.Text

/-- Whether a run holds a code point. -/
def CaseRun.covers (run : CaseRun) (n : Nat) : Bool :=
  run.first ≤ n && n ≤ run.last && (n - run.first) % run.step == 0

/-- The lower-case form of a character that does not depend on its
neighbours. -/
def lowerChar (c : Char) : List Char :=
  if c.toNat < 0x80 then [c.toLower]
  else if c.toNat = 0x130 then ['i', Char.ofNat 0x307]
  else match caseRuns.find? (·.covers c.toNat) with
    | some run => [Char.ofNat (c.toNat + run.shift).toNat]
    | none => [c]

/-- Whether the first character that is not case-ignorable is cased. -/
def casedAhead (s : List Char) : Bool :=
  match s.dropWhile fun c => covers caseIgnorableRanges c.toNat with
  | [] => false
  | c :: _ => covers casedRanges c.toNat

/-- Lowers the rest of a text; `before` holds the characters in front of it,
nearest first. -/
def lowerAfter (before : List Char) : List Char → List Char
  | [] => []
  | c :: rest =>
      if c.toNat = 0x3a3 then
        let lowered := if casedAhead before && !casedAhead rest then 0x3c2 else 0x3c3
        Char.ofNat lowered :: lowerAfter (c :: before) rest
      else
        lowerChar c ++ lowerAfter (c :: before) rest

/-- The lower-case form of a text. -/
def lowered (s : String) : String :=
  String.ofList (lowerAfter [] s.toList)

end QueryAdvisor.Text
