import QueryAdvisor.Number.Power

/-!
# Finite doubles

A finite double is a sign and a magnitude `significand * 2 ^ exponent`, with
the significand below `2 ^ 53` and the exponent between -1074 and 971. All
arithmetic goes through one function: `nearest` takes an exact fraction and
gives the double closest to it, a tie going to the even significand. A product
or a quotient is therefore the exact one, rounded once.

Decimal text is turned into a double in the way `ofDecimal` states: the
significand is rounded first, and then multiplied or divided by a rounded power
of ten. The result can differ in the last bit from the double closest to the
text.
-/

namespace QueryAdvisor

/-- A finite double, `(-1) ^ negative * significand * 2 ^ exponent`. -/
structure Binary64 where
  negative : Bool
  significand : Nat
  exponent : Int
deriving DecidableEq, Repr

namespace Binary64

/-- The exponent of the smallest doubles. -/
def minExponent : Int := -1074

/-- The exponent of the largest doubles. -/
def maxExponent : Int := 971

/-- The zero of a sign. -/
def zero (negative : Bool) : Binary64 :=
  ⟨negative, 0, minExponent⟩

def isZero (x : Binary64) : Bool :=
  x.significand == 0

/-- The integer nearest to a fraction, a tie going to the even one. -/
def roundHalfEven (num den : Nat) : Nat :=
  let whole := num / den
  let twice := 2 * (num % den)
  if den < twice || (twice == den && whole % 2 == 1) then whole + 1 else whole

/-- The integer nearest to a fraction divided by `2 ^ exponent`. -/
def scaledDown (num den : Nat) (exponent : Int) : Nat :=
  if exponent < 0 then roundHalfEven (num * twoTo (-exponent).toNat) den
  else roundHalfEven num (den * twoTo exponent.toNat)

/-- Whether a fraction is below `2 ^ exponent`. -/
def belowPower (num den : Nat) (exponent : Int) : Bool :=
  if exponent < 0 then num * twoTo (-exponent).toNat < den else num < den * twoTo exponent.toNat

/-- The double nearest to `num / den`; none when it would exceed the largest
double. -/
def nearest (negative : Bool) (num den : Nat) : Option Binary64 :=
  if num == 0 then some (zero negative)
  else
    let estimate : Int := (num.log2 : Int) - (den.log2 : Int)
    let top := if belowPower num den estimate then estimate - 1 else estimate
    let exponent := max (top - 52) minExponent
    let rounded := scaledDown num den exponent
    let (significand, exponent) :=
      if rounded == twoTo 53 then (twoTo 52, exponent + 1) else (rounded, exponent)
    if maxExponent < exponent then none else some ⟨negative, significand, exponent⟩

/-- The magnitude as a fraction: numerator and denominator. -/
def fraction (x : Binary64) : Nat × Nat :=
  (x.significand * twoTo x.exponent.toNat, twoTo (-x.exponent).toNat)

def mul (x y : Binary64) : Option Binary64 :=
  let (a, b) := x.fraction
  let (c, d) := y.fraction
  nearest (x.negative != y.negative) (a * c) (b * d)

def div (x y : Binary64) : Option Binary64 :=
  let (a, b) := x.fraction
  let (c, d) := y.fraction
  nearest (x.negative != y.negative) (a * d) (b * c)

/-- The double nearest to an integer. -/
def ofInt (n : Int) : Option Binary64 :=
  nearest (n < 0) n.natAbs 1

/-- The largest power of ten that is a finite double. -/
def maxPower : Nat := 308

/-- The double nearest to a power of ten. -/
def powerOfTen (power : Nat) : Option Binary64 :=
  nearest false (tenTo power) 1

/-- Multiplies by a power of ten. -/
def timesPower (x : Binary64) (power : Nat) : Option Binary64 :=
  if maxPower < power then (if x.isZero then some x else none)
  else (powerOfTen power).bind x.mul

/-- Divides `steps` times by the largest power of ten; what has become zero
stays zero. -/
def overLargest (x : Binary64) : Nat → Option Binary64
  | 0 => some x
  | steps + 1 =>
      if x.isZero then some x
      else match (powerOfTen maxPower).bind x.div with
        | none => none
        | some y => overLargest y steps

/-- Divides by a power of ten, in steps no larger than the largest one that is
a double. -/
def overPower (x : Binary64) (power : Nat) : Option Binary64 :=
  let steps := (power - 1) / maxPower
  match x.overLargest steps with
  | none => none
  | some y => (powerOfTen (power - steps * maxPower)).bind y.div

/-- The double that `significand * 10 ^ exponent` is read as; none when it is
out of range. -/
def ofDecimal (negative : Bool) (significand : Nat) (exponent : Int) : Option Binary64 :=
  match nearest negative significand 1 with
  | none => none
  | some x => if exponent < 0 then x.overPower exponent.natAbs else x.timesPower exponent.toNat

end Binary64

end QueryAdvisor
