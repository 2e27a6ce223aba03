import QueryAdvisor.Number.Binary64

/-!
# Shortest decimal digits

The text of a double uses the fewest significant digits that still identify
it, and of the decimals with that many digits the one nearest to it. The
decimals that identify a double are those in its rounding interval: from half
way to the neighbour below to half way to the neighbour above, the ends
included when the significand is even.

For each digit count the value lies between two neighbours on the decimal
grid. If any grid point is in the interval, one of these two is.
-/

namespace QueryAdvisor

/-- The decimal `digits * 10 ^ exponent`. -/
structure Decimal where
  digits : Nat
  exponent : Int
deriving DecidableEq, Repr

namespace Shortest

/-- A magnitude with its rounding interval, all over one denominator. -/
structure Interval where
  low : Nat
  value : Nat
  high : Nat
  den : Nat
  closed : Bool

/-- The rounding interval of a double. Below a power of two the neighbours lie
half as far apart. -/
def interval (x : Binary64) : Interval :=
  let gapBelow := if x.significand == twoTo 52 && Binary64.minExponent < x.exponent then 1 else 2
  let up := twoTo (x.exponent - 2).toNat
  { low := (4 * x.significand - gapBelow) * up
    value := 4 * x.significand * up
    high := (4 * x.significand + 2) * up
    den := twoTo (2 - x.exponent).toNat
    closed := x.significand % 2 == 0 }

/-- Compares `num / den` with `digits * 10 ^ exponent`. -/
def compareDecimal (num den digits : Nat) (exponent : Int) : Ordering :=
  compare (num * tenTo (-exponent).toNat) (digits * tenTo exponent.toNat * den)

/-- Whether a decimal lies in the interval. -/
def Interval.holds (i : Interval) (d : Decimal) : Bool :=
  let low := compareDecimal i.low i.den d.digits d.exponent
  let high := compareDecimal i.high i.den d.digits d.exponent
  if i.closed then low != .gt && high != .lt else low == .lt && high == .gt

/-- The exponent of the leading digit: the largest power of ten that is not
above the value. -/
def Interval.leading (i : Interval) : Int :=
  let bits : Int := (i.value.log2 : Int) - (i.den.log2 : Int)
  let guess : Int := bits * 30103 / 100000
  let fits (e : Int) : Bool := compareDecimal i.value i.den 1 e != .lt
  if fits (guess + 2) then guess + 2
  else if fits (guess + 1) then guess + 1
  else if fits guess then guess
  else if fits (guess - 1) then guess - 1
  else guess - 2

/-- The decimal with the given number of digits that identifies the value, if
there is one: of two, the nearer, and the even one if both are equally near. -/
def Interval.withDigits (i : Interval) (count : Nat) : Option Decimal :=
  let exponent := i.leading - (count : Int) + 1
  let num := i.value * tenTo (-exponent).toNat
  let den := i.den * tenTo exponent.toNat
  let below : Decimal := ⟨num / den, exponent⟩
  let above : Decimal := ⟨num / den + 1, exponent⟩
  let twice := 2 * (num % den)
  let nearBelow := twice < den || (twice == den && below.digits % 2 == 0)
  match i.holds below, i.holds above with
  | true, true => some (if nearBelow then below else above)
  | true, false => some below
  | false, true => some above
  | false, false => none

/-- Moves trailing zeros of the digits into the exponent. -/
def stripZeros (fuel : Nat) (d : Decimal) : Decimal :=
  match fuel with
  | 0 => d
  | fuel + 1 =>
      if d.digits != 0 && d.digits % 10 == 0 then stripZeros fuel ⟨d.digits / 10, d.exponent + 1⟩
      else d

/-- The digits of a double that is not zero. Seventeen always suffice. -/
def decimal (x : Binary64) : Decimal :=
  let i := interval x
  let counts := (List.range 17).map (· + 1)
  match counts.findSome? i.withDigits with
  | some d => stripZeros 17 d
  | none => ⟨x.significand, 0⟩

end Shortest

end QueryAdvisor
