import QueryAdvisor.Number.Shortest

/-!
# Number layout

Where the digits of a double go. A layout says for which magnitudes the number
is written plainly; outside them it is written with one digit before the point
and a signed exponent. A plain number always shows a point and a digit after
it.
-/

namespace QueryAdvisor

/-- How numbers are laid out: plain when the exponent of the leading digit is at
least `plainFrom` and below `plainBelow`. -/
structure Layout where
  plainFrom : Int
  plainBelow : Int

namespace Layout

def zeros (n : Nat) : List Char :=
  List.replicate n '0'

/-- The digits with a point after the first `point` of them. -/
def plain (digits : List Char) (point : Int) : List Char :=
  if point ≤ 0 then ['0', '.'] ++ zeros (-point).toNat ++ digits
  else if digits.length ≤ point.toNat then
    digits ++ zeros (point.toNat - digits.length) ++ ['.', '0']
  else digits.take point.toNat ++ ['.'] ++ digits.drop point.toNat

/-- One digit, the others after a point, and the exponent with its sign. -/
def scientific (digits : List Char) (exponent : Int) : List Char :=
  let sign := if exponent < 0 then '-' else '+'
  let mantissa := match digits with
    | [] => ['0']
    | [d] => [d]
    | d :: rest => d :: '.' :: rest
  mantissa ++ ['e', sign] ++ Nat.toDigits 10 exponent.natAbs

/-- The text of a double. -/
def text (layout : Layout) (x : Binary64) : List Char :=
  let sign := if x.negative then ['-'] else []
  if x.isZero then sign ++ ['0', '.', '0']
  else
    let d := Shortest.decimal x
    let digits := Nat.toDigits 10 d.digits
    let point := d.exponent + digits.length
    let exponent := point - 1
    if layout.plainFrom ≤ exponent && exponent < layout.plainBelow then sign ++ plain digits point
    else sign ++ scientific digits exponent

end Layout

end QueryAdvisor
